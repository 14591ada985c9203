import BlogConsole.Proofs.Task.Trace

/-!
The life of a task, read off its entries.

A task starts once, then works, and then ends in one of three ways: its work returned a result,
which it reported, or its work failed, or it was cancelled. `Life` says which entries a task has
made when it is at a stage, and everything that can happen to a task keeps it.
-/

namespace BlogConsole

open Event

namespace Task

def opening (t : Task) (i : Nat) : List Entry := (t.inStatus .running).reportStart i

/-! ### Reports -/

variable {t : Task} {i : Nat}

/-- A callback of a task that was executed is refused to execute it again. -/
lemma mem_react {r : Reaction} {e : Entry} (he : e ∈ t.react i r) :
    e.status = t.status ∧ e.deed.isRefused = true ∧ Quiet e.events := by
  unfold react at he
  rw [List.mem_flatten] at he
  obtain ⟨es, hes, he⟩ := he
  rw [List.eq_of_mem_replicate hes, again] at he
  split at he
  · rw [List.mem_singleton] at he
    subst he
    exact ⟨rfl, rfl, by simp [did, Quiet, notices]⟩
  · simp at he

/-- The report of a start shows ordinary notices only. -/
lemma reportStart_quiet : ∀ e ∈ t.reportStart i, Quiet e.events :=
  List.forall_mem_cons.mpr ⟨Callbacks.startEvent_quiet _ _ _ _, fun _ he => (mem_react he).2.2⟩

/-- The report of a result shows ordinary notices only. -/
lemma returning_quiet (r : Result) : ∀ e ∈ t.returning i r, Quiet e.events :=
  List.forall_mem_cons.mpr ⟨quiet_nil, List.forall_mem_cons.mpr
    ⟨Callbacks.completeEvent_quiet _ _ _ _, fun _ he => (mem_react he).2.2⟩⟩

/-! A task calls the service in its work only: not in its reports, not when it hands an error to its
handler, and not when its work fails. -/

lemma react_no_ask (r : Reaction) : ∀ e ∈ t.react i r, e.deed.isAsk = false := fun _ he =>
  Deed.not_isAsk (Deed.of_isRefused (mem_react he).2.1).2.2

lemma reportStart_no_ask : ∀ e ∈ t.reportStart i, e.deed.isAsk = false :=
  List.forall_mem_cons.mpr ⟨rfl, react_no_ask _⟩

lemma returning_no_ask (r : Result) : ∀ e ∈ t.returning i r, e.deed.isAsk = false :=
  List.forall_mem_cons.mpr ⟨rfl, List.forall_mem_cons.mpr ⟨rfl, react_no_ask _⟩⟩

lemma raising_no_ask (f : Failure) : ∀ e ∈ t.raising f, e.deed.isAsk = false :=
  List.forall_mem_cons.mpr ⟨rfl, List.forall_mem_singleton.mpr rfl⟩

lemma handle_no_ask (e : ApiError) : ∀ entry ∈ t.handle i e, entry.deed.isAsk = false := by
  unfold handle
  split
  · exact List.forall_mem_nil _
  · split <;> simp [did, noted, Deed.isAsk]
  · exact List.forall_mem_singleton.mpr rfl

lemma launch_no_ask (args : List Argument) :
    ∀ e ∈ (t.launch i args).record, e.deed.isAsk = false := by
  unfold launch
  dsimp only
  split <;> exact reportStart_no_ask

lemma settlement_no_ask : ∀ e ∈ t.settlement, e.deed.isAsk = false := by
  unfold settlement
  split
  · exact List.forall_mem_singleton.mpr rfl
  · exact List.forall_mem_nil _

/-- Nothing is noted when a task is settled that was not cancelled. -/
lemma settlement_of_ended {o : Outcome} (hs : t.stage = .ended o) (ho : o ≠ .cancelled) :
    t.settlement = [] := by
  rw [settlement, hs]
  cases o with
  | cancelled => exact absurd rfl ho
  | result | failure => rfl

lemma outcomeOf_ne_cancelled (r : Result) : t.outcomeOf r ≠ .cancelled := by
  unfold outcomeOf
  split <;> simp

def cancellation (t : Task) : Entry := (t.inStatus .finished).noted (.taskCancelled t.kind.name)

/-- How a life ends with some work: the outcome and the last entries. -/
inductive Closing (t : Task) (i : Nat) : Work → Outcome → List Entry → Prop
  | returned (r : Result) :
      Closing t i (.done r) (t.outcomeOf r) ((t.inStatus .running).returning i r)
  | raised (f : Failure) :
      Closing t i (.failed f) (.failure f) ((t.inStatus .running).raising f)
  | cancelled (w : Work) : Closing t i w .cancelled [t.cancellation]

lemma Closing.finish {w : Work} {o : Outcome} {closing : List Entry}
    (h : Closing t i w o closing) : Closing (t.finish o) i w o closing := by
  cases h with
  | returned r => exact returned (t := t.finish (t.outcomeOf r)) r
  | raised f => exact raised (t := t.finish (.failure f)) f
  | cancelled w => exact cancelled w

lemma Closing.no_ask {w : Work} {o : Outcome} {closing : List Entry}
    (h : Closing t i w o closing) : ∀ e ∈ closing, e.deed.isAsk = false := by
  cases h with
  | returned r => exact returning_no_ask r
  | raised f => exact raising_no_ask f
  | cancelled => exact List.forall_mem_singleton.mpr rfl

/-! ### Turns -/

/-- What the turn of a task with some work comes to, unless it was stopped: the entries it makes,
and the task then. -/
inductive Turned (t : Task) (i : Nat) (isOpen : String → Bool) (w : Work) :
    List Entry → Task → Prop
  | waits {mid : List Entry} {last : Entry} {gate : String} {w' : Work} :
      Trace t.toSetup i w mid w' → mid.getLast? = some last → last.deed.isAsk = true →
      isOpen gate = false → Turned t i isOpen w mid (t.atStage (.waiting gate w'))
  | ends {mid closing : List Entry} {o : Outcome} {w' : Work} :
      Trace t.toSetup i w mid w' → Closing t i w' o closing → o ≠ .cancelled →
      Turned t i isOpen w (mid ++ closing) (t.finish o)

variable {isOpen : String → Bool} {es : List Entry} {t' : Task} {w : Work}

lemma Turned.after {w' : Work} {mid : List Entry} (hmid : Trace t.toSetup i w mid w')
    (h : Turned t i isOpen w' es t') : Turned t i isOpen w (mid ++ es) t' := by
  cases h with
  | waits hmid' hlast hask hopen =>
    refine .waits (hmid.trans hmid') ?_ hask hopen
    rw [List.getLast?_append, hlast, Option.some_or]
  | ends hmid' hc ho =>
    rw [← List.append_assoc]
    exact .ends (hmid.trans hmid') hc ho

/-- Settling changes nothing more, and only of a cancelled task anything is noted then. -/
lemma Turned.settled (h : Turned t i isOpen w es t') : t'.settled = t' ∧ t'.settlement = [] := by
  cases h with
  | waits => exact ⟨rfl, rfl⟩
  | ends _ _ ho => exact ⟨rfl, settlement_of_ended rfl ho⟩

/-- What a task does in its work depends on what it is made of. -/
lemma did_running (ht : t.status = .running) (d : Deed) (events : List Event) :
    t.did d events = t.toSetup.running.did d events := by
  rw [did, ht]
  rfl

lemma handle_running (ht : t.status = .running) (e : ApiError) :
    t.handle i e = t.toSetup.running.handle i e := by
  have same : t.inStatus .running = t := by rw [← ht]; rfl
  rw [← same]
  rfl

/-- Work leads to its end or to a closed gate. -/
lemma advance_turned (i : Nat) (isOpen : String → Bool) (ht : t.status = .running) (w : Work)
    (s : Service) :
    Turned t i isOpen w (t.advance i isOpen w s).record (t.advance i isOpen w s).task := by
  have running : t.inStatus .running = t := by rw [← ht]; rfl
  induction w generalizing s with
  | done r =>
    have closing := Closing.returned (t := t) (i := i) r
    rw [running] at closing
    exact .ends (.stop _) closing (outcomeOf_ne_cancelled r)
  | failed f =>
    have closing := Closing.raised (t := t) (i := i) f
    rw [running] at closing
    exact .ends (.stop _) closing (by simp)
  | note n next ih =>
    have noted : Trace t.toSetup i (.note n next) [t.noted n] next := by
      rw [Task.noted, did_running ht]
      exact .note (.stop next)
    exact .after noted (ih s)
  | handle e next ih =>
    have handled : Trace t.toSetup i (.handle e next) (t.handle i e) next := by
      rw [handle_running ht, ← List.append_nil (Task.handle _ _ _)]
      exact .handle (.stop next)
    exact .after handled (ih s)
  | ask c next ih =>
    have asked : Trace t.toSetup i (.ask c next)
        [t.did (.ask t.blog c (s.serve i t.blog c).reply) (s.serve i t.blog c).events]
        (next (s.serve i t.blog c).reply) := by
      rw [did_running ht]
      exact .ask (s.serve_quiet i t.blog c) (.stop _)
    rw [advance]
    split
    · split
      · exact .after asked (ih _ _)
      · next hopen => exact .waits asked rfl rfl (by simpa using hopen)
    · exact .after asked (ih _ _)

/-! ### Lives -/

def workOf (t : Task) (args : List Argument) : Work := Work.ofKind t.blog t.kind args

/-- The entries of task number `i` at its stage, between the steps of the loop. If it was executed,
it was with `args`, and its work is a trace from its first to its last call. -/
inductive Life (t : Task) (i : Nat) (args : List Argument) : List Entry → Prop
  | idle : t.stage = .idle → t.status = .pending → Life t i args []
  | abandoned {f : Failure} :
      t.stage = .abandoned → t.status = .running → t.callbacks.onStart.failure = some f →
      Life t i args (t.opening i)
  | ready {begun : Bool} {w : Work} {mid : List Entry} :
      t.stage = .ready begun w → t.status = .running → t.callbacks.onStart.failure = none →
      Trace t.toSetup i (t.workOf args) mid w → (begun = false → mid = []) →
      Life t i args (t.opening i ++ mid)
  | waiting {gate : String} {w : Work} {mid : List Entry} {last : Entry} :
      t.stage = .waiting gate w → t.status = .running → t.callbacks.onStart.failure = none →
      Trace t.toSetup i (t.workOf args) mid w →
      mid.getLast? = some last → last.deed.isAsk = true →
      Life t i args (t.opening i ++ mid)
  | ended {o : Outcome} {w : Work} {mid closing : List Entry} :
      t.stage = .ended o → t.status = .finished → t.callbacks.onStart.failure = none →
      Trace t.toSetup i (t.workOf args) mid w → Closing t i w o closing →
      Life t i args (t.opening i ++ mid ++ closing)

lemma isWork_of_trace {args : List Argument} {mid : List Entry}
    (h : Trace t.toSetup i (t.workOf args) mid w) : ∀ e ∈ mid, e.IsWork :=
  h.isWork (Work.ofKind_plain _ _ _)

namespace Life

variable {own : List Entry} {args : List Argument}

lemma launch (h : Life t i args own) (ht : t.status = .pending) (args' : List Argument) :
    own = [] ∧ Life (t.launch i args').task i args' (t.launch i args').record := by
  cases h with
  | idle =>
    refine ⟨rfl, ?_⟩
    unfold Task.launch
    dsimp only
    split
    · next f hf => exact .abandoned rfl rfl hf
    · next hf =>
      rw [← List.append_nil (reportStart _ _)]
      exact .ready rfl rfl hf (.stop _) (fun _ => rfl)
  | abandoned _ hs | ready _ hs | waiting _ hs | ended _ hs => rw [hs] at ht; cases ht

lemma freed (h : Life t i args own) (gate : String) : Life (t.freed gate) i args own := by
  unfold Task.freed
  split
  · next hstage =>
    split
    · cases h with
      | waiting hw hs hf hmid hlast =>
        rw [hstage] at hw
        cases hw
        exact .ready rfl hs hf hmid (fun h => by cases h)
      | idle h | abandoned h | ready h | ended h => rw [hstage] at h; cases h
    · exact h
  · exact h

lemma stop (h : Life t i args own) : Life t.stop i args own := by
  unfold Task.stop
  split
  · next hstage =>
    cases h with
    | ready hr hs hf hmid hfresh => exact .ready hr hs hf hmid hfresh
    | idle h | abandoned h | waiting h | ended h => rw [hstage] at h; cases h
  · next hstage =>
    cases h with
    | waiting hw hs hf hmid hlast =>
      rw [hstage] at hw
      cases hw
      exact .ready rfl hs hf hmid (fun h => by cases h)
    | idle h | abandoned h | ready h | ended h => rw [hstage] at h; cases h
  · exact h

lemma turned (h : Life t i args own) {begun : Bool} (hs : t.stage = .ready begun w)
    (ht : Turned t i isOpen w es t') : Life t' i args (own ++ es) := by
  cases h with
  | ready hr hrun hf hmid _ =>
    rw [hs] at hr
    cases hr
    cases ht with
    | waits hmid' hlast hask _ =>
      rw [List.append_assoc]
      refine waiting rfl hrun hf (hmid.trans hmid') ?_ hask
      rw [List.getLast?_append, hlast, Option.some_or]
    | @ends mid' closing o w' hmid' hc _ =>
      rw [← List.append_assoc, List.append_assoc (t.opening i)]
      exact ended (t := t.finish o) rfl rfl hf (hmid.trans hmid') hc.finish
  | idle h | abandoned h | waiting h | ended h => rw [hs] at h; cases h

lemma cancelled (h : Life t i args own) {begun : Bool} (hs : t.stage = .ready begun w) :
    Life (t.finish .cancelled) i args (own ++ [t.cancellation]) := by
  cases h with
  | ready _ _ hf hmid _ =>
    exact ended (t := t.finish .cancelled) rfl rfl hf hmid (.cancelled _)
  | idle h | abandoned h | waiting h | ended h => rw [hs] at h; cases h

lemma idle_of_pending (h : Life t i args own) (hp : t.status = .pending) : t.stage = .idle := by
  cases h with
  | idle h => exact h
  | abandoned _ hs | ready _ hs | waiting _ hs | ended _ hs => rw [hs] at hp; cases hp

lemma running_of_ready (h : Life t i args own) {begun : Bool} (hs : t.stage = .ready begun w) :
    t.status = .running := by
  cases h with
  | ready _ hr => exact hr
  | idle h | abandoned h | waiting h | ended h => rw [hs] at h; cases h

/-- A turn, with the settlement after it: the task goes on with its work, unless it was stopped. -/
lemma turn (h : Life t i args own) {begun : Bool} (hs : t.stage = .ready begun w)
    (i : Nat) (isOpen : String → Bool) (s : Service) :
    t.stopped = false ∧ Turned t i isOpen w
        ((t.turn i isOpen s).record ++ (t.turn i isOpen s).task.settlement)
        (t.turn i isOpen s).task.settled ∨
      t.stopped = true ∧
        (t.turn i isOpen s).record ++ (t.turn i isOpen s).task.settlement = [t.cancellation] ∧
        (t.turn i isOpen s).task.settled = t.finish .cancelled := by
  unfold Task.turn
  rw [hs]
  dsimp only
  cases hstop : t.stopped with
  | true =>
    refine .inr ⟨rfl, ?_⟩
    cases begun <;> exact ⟨rfl, rfl⟩
  | false =>
    have turned := advance_turned i isOpen (h.running_of_ready hs) w s
    obtain ⟨settled, settlement⟩ := turned.settled
    refine .inl ⟨rfl, ?_⟩
    rw [if_neg Bool.false_ne_true, settled, settlement, List.append_nil]
    exact turned

end Life

end Task

end BlogConsole
