import BlogConsole.Proofs.Task.Console
import BlogConsole.Proofs.Task.Once
import BlogConsole.Proofs.Task.Replay

/-!
What a task does from its start to its end, told by its deeds.

`Comes` is what the work of a task can come to, on replies of any kind: the deeds on the way, and
the result or the failure at the end. A task that ended by itself has done what its work came to,
between its start and a report or a failure. And each deed shows in one way, except for a call,
which shows as the service that it was made on shows it.
-/

namespace BlogConsole

open Event

/-! ### Deeds -/

/-- The deeds of entries, without the executions that were refused. -/
def Entry.deeds (es : List Entry) : List Deed := (unrefused es).map (·.deed)

/-- What a task does with an error that it hands to its handler. -/
def Handler.deeds : Handler → ApiError → List Deed
  | none, _ => []
  | custom react, e =>
    .handle e ::
      match react e with
      | .none => []
      | some f => [.note (.handlerFailed f)]
  | reports, e => [.handle e]

/-- The deeds with which a task of some name ends, whose work came to a result or a failure. -/
def Deed.ending (name : String) : Except Failure Result → List Deed
  | .ok r => [.returned r, .complete r]
  | .error f => [.raised f, .note (.taskFailed name f)]

lemma Handler.filter_deeds (h : Handler) (e : ApiError) : (h.deeds e).filter (·.isAsk) = [] := by
  cases h with
  | none | reports => rfl
  | custom react =>
    rw [deeds]
    cases react e <;> rfl

/-- A task ends without calls. -/
lemma Deed.filter_ending (name : String) (v : Except Failure Result) :
    (ending name v).filter (·.isAsk) = [] := by
  cases v <;> rfl

/-- The outcome of a task whose work came to a result or a failure. The report of a result may still
fail. -/
def Setup.outcome (u : Setup) : Except Failure Result → Outcome
  | .ok r => u.running.outcomeOf r
  | .error f => .failure f

/-- What work can come to: the deeds on the way, and the result or the failure at its end. -/
inductive Work.Comes (u : Setup) : Work → List Deed → Except Failure Result → Prop
  | done (r : Result) : Comes u (.done r) [] (.ok r)
  | failed (f : Failure) : Comes u (.failed f) [] (.error f)
  | note {n : Notice} {next : Work} {ds : List Deed} {v : Except Failure Result} :
      Comes u next ds v → Comes u (.note n next) (.note n :: ds) v
  | handle {e : ApiError} {next : Work} {ds : List Deed} {v : Except Failure Result} :
      Comes u next ds v → Comes u (.handle e next) (u.handler.deeds e ++ ds) v
  | ask {c : Call} {next : c.Reply → Work} (reply : c.Reply) {ds : List Deed}
      {v : Except Failure Result} :
      Comes u (next reply) ds v → Comes u (.ask c next) (.ask u.blog c reply :: ds) v

namespace Entry

variable {es fs : List Entry}

lemma deeds_append : deeds (es ++ fs) = deeds es ++ deeds fs := by
  rw [deeds, unrefused_append, List.map_append, deeds, deeds]

lemma deeds_of_isWork (h : ∀ e ∈ es, e.IsWork) : deeds es = es.map (·.deed) := by
  have accepted : ∀ e ∈ es, e.deed.isRefused = false := by
    intro e he
    have work := (h e he).deed
    cases hd : e.deed with
    | refused f => rw [hd] at work; cases work
    | _ => rfl
  rw [deeds, unrefused_of_none accepted]

lemma filter_deeds (es : List Entry) :
    (deeds es).filter (·.isAsk) = (asks es).map (·.deed) := by
  have accepted (e : Entry) : (e.deed.isAsk && !e.deed.isRefused) = e.deed.isAsk := by
    cases e.deed <;> rfl
  rw [deeds, unrefused, List.filter_map, List.filter_filter, asks]
  exact congrArg (fun p => (es.filter p).map (·.deed)) (funext accepted)

end Entry

open Entry

namespace Task

variable {t : Task} {i : Nat} {u : Setup} {own : List Entry} {args : List Argument}

lemma deeds_handle (u : Setup) (i : Nat) (e : ApiError) :
    (u.running.handle i e).map (·.deed) = u.handler.deeds e := by
  have same : u.running.handler = u.handler := rfl
  unfold handle
  rw [same]
  cases u.handler with
  | none | reports => rfl
  | custom react =>
    rw [Handler.deeds]
    dsimp only
    cases react e <;> rfl

lemma comes_of_trace {w w' : Work} {mid : List Entry} (h : Trace u i w mid w') {ds : List Deed}
    {v : Except Failure Result} (hw : w'.Comes u ds v) : w.Comes u (mid.map (·.deed) ++ ds) v := by
  induction h with
  | stop w => exact hw
  | note _ ih => exact .note (ih hw)
  | handle _ ih =>
    rw [List.map_append, deeds_handle, List.append_assoc]
    exact .handle (ih hw)
  | ask _ _ ih => exact .ask _ (ih hw)

lemma deeds_react (r : Reaction) : deeds (t.react i r) = [] := by rw [deeds, react_unrefused]; rfl

lemma deeds_opening : deeds (t.opening i) = [.start t.kind.progress] :=
  congrArg (Deed.start t.kind.progress :: ·) (deeds_react (t := t.inStatus .running) _)

lemma deeds_returning (r : Result) :
    deeds (t.returning i r) = [.returned r, .complete r] :=
  congrArg ([Deed.returned r, .complete r] ++ ·) (deeds_react (t := t.inStatus .finished) _)

lemma Closing.comes {w : Work} {o : Outcome} {closing : List Entry}
    (h : Closing t i w o closing) (ho : o ≠ .cancelled) :
    ∃ v, w.Comes t.toSetup [] v ∧ deeds closing = Deed.ending t.kind.name v ∧
      o = t.toSetup.outcome v := by
  cases h with
  | returned r => exact ⟨.ok r, .done r, deeds_returning r, rfl⟩
  | raised f => exact ⟨.error f, .failed f, rfl, rfl⟩
  | cancelled => exact absurd rfl ho

lemma Life.comes (h : Life t i args own) {o : Outcome} (hs : t.stage = .ended o)
    (ho : o ≠ .cancelled) :
    ∃ ds v, (t.workOf args).Comes t.toSetup ds v ∧
      deeds own = .start t.kind.progress :: ds ++ Deed.ending t.kind.name v ∧
      o = t.toSetup.outcome v := by
  cases h with
  | @ended o' w mid closing hs' _ _ hmid hc =>
    rw [hs] at hs'
    cases hs'
    obtain ⟨v, comes, ending, outcome⟩ := hc.comes ho
    have whole := comes_of_trace hmid comes
    rw [List.append_nil] at whole
    refine ⟨_, v, whole, ?_, outcome⟩
    rw [deeds_append, deeds_append, deeds_opening, ending,
      deeds_of_isWork (isWork_of_trace hmid)]
    rfl
  | idle h | abandoned h | ready h | waiting h => cases h.symm.trans hs

end Task

/-! ### Events -/

/-- How a deed shows, unless it is a call. -/
def Setup.shows (u : Setup) (i : Nat) (status : Status) : Deed → List Event
  | .start message => [u.callbacks.startEvent i message status]
  | .note n => [.notice n]
  | .handle e =>
    match u.handler with
    | .none => []
    | .custom _ => [.handled i e]
    | .reports => e.hint
  | .complete r => [u.callbacks.completeEvent i r status]
  | .refused f => [.refused i f]
  | .returned _ | .raised _ | .ask .. => []

/-- An entry shows what its deed does, unless it is a call. -/
def Entry.Shows (u : Setup) (i : Nat) (e : Entry) : Prop :=
  e.deed.isAsk = false → e.events = u.shows i e.status e.deed

lemma Setup.shows_requests (u : Setup) (i : Nat) (status : Status) (d : Deed) :
    requests (u.shows i status d) = [] := by
  cases d with
  | start message => rw [shows]; cases u.callbacks <;> rfl
  | complete r => rw [shows]; cases u.callbacks <;> rfl
  | handle e =>
    rw [shows]
    split
    · rfl
    · rfl
    · exact e.hint_requests
  | note | refused | returned | raised | ask => rfl

namespace Task

variable {t : Task} {i : Nat} {u : Setup} {own : List Entry} {args : List Argument}

lemma react_shows (r : Reaction) : ∀ e ∈ t.react i r, e.Shows u i := by
  intro e he _
  rw [react, List.mem_flatten] at he
  obtain ⟨es, hes, he⟩ := he
  rw [List.eq_of_mem_replicate hes, again] at he
  split at he
  · rw [List.mem_singleton.mp he]
    rfl
  · cases he

lemma handle_shows (u : Setup) (i : Nat) (err : ApiError) :
    ∀ e ∈ u.running.handle i err, e.Shows u i := by
  have same : u.running.handler = u.handler := rfl
  intro e he _
  unfold handle at he
  rw [same] at he
  split at he
  · cases he
  · next react hh =>
    rcases List.mem_cons.mp he with rfl | he
    · simp only [did, Setup.shows, hh]
    · split at he
      · cases he
      · rw [List.mem_singleton.mp he]
        rfl
  · next hh =>
    rw [List.mem_singleton.mp he]
    simp only [did, Setup.shows, hh]
    rfl

lemma opening_shows : ∀ e ∈ t.opening i, e.Shows t.toSetup i :=
  List.forall_mem_cons.mpr ⟨fun _ => rfl, react_shows _⟩

lemma trace_shows {w w' : Work} {mid : List Entry} (h : Trace u i w mid w') :
    ∀ e ∈ mid, e.Shows u i := by
  induction h with
  | stop w => exact List.forall_mem_nil _
  | note _ ih => exact List.forall_mem_cons.mpr ⟨fun _ => rfl, ih⟩
  | handle _ ih => exact List.forall_mem_append.mpr ⟨handle_shows u i _, ih⟩
  | ask _ _ ih => exact List.forall_mem_cons.mpr ⟨nofun, ih⟩

lemma Closing.shows {w : Work} {o : Outcome} {closing : List Entry}
    (h : Closing t i w o closing) : ∀ e ∈ closing, e.Shows t.toSetup i := by
  cases h with
  | returned r =>
    exact List.forall_mem_cons.mpr ⟨fun _ => rfl,
      List.forall_mem_cons.mpr ⟨fun _ => rfl, react_shows _⟩⟩
  | raised f =>
    exact List.forall_mem_cons.mpr ⟨fun _ => rfl, List.forall_mem_singleton.mpr fun _ => rfl⟩
  | cancelled => exact List.forall_mem_singleton.mpr fun _ => rfl

/-- Whatever a task does shows in its one way, at every stage. -/
lemma Life.shows (h : Life t i args own) : ∀ e ∈ own, e.Shows t.toSetup i := by
  cases h with
  | idle => exact List.forall_mem_nil _
  | abandoned => exact opening_shows
  | ready _ _ _ hmid => exact List.forall_mem_append.mpr ⟨opening_shows, trace_shows hmid⟩
  | waiting _ _ _ hmid => exact List.forall_mem_append.mpr ⟨opening_shows, trace_shows hmid⟩
  | ended _ _ _ hmid hc =>
    exact List.forall_mem_append.mpr
      ⟨List.forall_mem_append.mpr ⟨opening_shows, trace_shows hmid⟩, hc.shows⟩

end Task

end BlogConsole
