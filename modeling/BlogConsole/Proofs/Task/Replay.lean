import BlogConsole.Proofs.Task.Life
import Mathlib.Data.List.Forall2

/-!
Replays: a task that is given the same answers again does the same again.

A task sees neither who else calls a scripted service nor how long its answers take. So all that it
does is fixed by the entries of the script that answered its calls, but for its number, by which its
events name it. A replay puts these entries into a script of their own, without their gates.
-/

namespace BlogConsole

/-! ### Numbers -/

def Event.renumber (j : Nat) : Event → Event
  | called _ blog call => called j blog call
  | started _ message status => started j message status
  | completed _ result status => completed j result status
  | handled _ error => handled j error
  | refused _ failure => refused j failure
  | event => event

def Entry.renumber (j : Nat) (e : Entry) : Entry := { e with events := e.events.map (·.renumber j) }

namespace Task

variable {t : Task} {i : Nat}

lemma renumber_again (j : Nat) : (t.again i).map (.renumber j) = t.again j := by
  unfold again
  split <;> rfl

lemma renumber_react (r : Reaction) (j : Nat) :
    (t.react i r).map (.renumber j) = t.react j r := by
  rw [react, List.map_flatten, List.map_replicate, renumber_again, react]

lemma renumber_reportStart (j : Nat) : (t.reportStart i).map (.renumber j) = t.reportStart j := by
  have told : (t.callbacks.startEvent i t.kind.progress t.status).renumber j =
      t.callbacks.startEvent j t.kind.progress t.status := by
    cases t.callbacks <;> rfl
  rw [reportStart, List.map_cons, renumber_react, reportStart, ← told]
  rfl

lemma renumber_reportResult (r : Result) (j : Nat) :
    (t.reportResult i r).map (.renumber j) = t.reportResult j r := by
  have told : (t.callbacks.completeEvent i r t.status).renumber j =
      t.callbacks.completeEvent j r t.status := by
    cases t.callbacks <;> rfl
  rw [reportResult, List.map_cons, renumber_react, reportResult, ← told]
  rfl

lemma renumber_returning (r : Result) (j : Nat) :
    (t.returning i r).map (.renumber j) = t.returning j r := by
  rw [returning, List.map_cons, renumber_reportResult, returning]
  rfl

lemma renumber_handle (e : ApiError) (j : Nat) :
    (t.handle i e).map (.renumber j) = t.handle j e := by
  unfold handle
  split
  · rfl
  · split <;> rfl
  · dsimp only
    split <;> rfl

end Task

/-! ### Answers of a script -/

/-- The entry of a script without its gate. -/
def ScriptEntry.ungated (s : ScriptEntry) : ScriptEntry := { s with gate := none }

namespace Entry

/-- Task number `i` made a call, and an entry of a script answered it. -/
def AnsweredBy (i : Nat) (e : Entry) (s : ScriptEntry) : Prop :=
  ∃ blog call, e.deed = .ask blog call (s.reply call) ∧ e.events = [.called i blog call]

def asks (es : List Entry) : List Entry := es.filter (·.deed.isAsk)

variable {es fs : List Entry}

lemma asks_append : asks (es ++ fs) = asks es ++ asks fs := List.filter_append ..

lemma asks_of_none (h : ∀ e ∈ es, e.deed.isAsk = false) : asks es = [] :=
  List.filter_eq_nil_iff.mpr fun e he => by simp [h e he]

end Entry

namespace Task

variable {t v : Task} {i : Nat} {w w' : Work} {mid own : List Entry} {taken : List ScriptEntry}
  {isOpen : String → Bool}

lemma Progress.after_append (p : Progress) (es fs : List Entry) :
    p.after (es ++ fs) = (p.after fs).after es :=
  congrArg (fun record => (⟨p.service, record, p.task⟩ : Progress)) (List.append_assoc ..)

/-- Work goes the same way again when it is given the same answers. The entries that were taken are
used up on the way, one by each call of the trace. -/
lemma advance_replay (ht : t.status = .running) (h : Trace t.toSetup i w mid w')
    (answered : List.Forall₂ (Entry.AnsweredBy i) (Entry.asks mid) taken) (j : Nat)
    (isOpen : String → Bool) :
    t.advance j isOpen w (.ofEntries (taken.map .ungated)) =
      (t.advance j isOpen w' (.ofEntries [])).after (mid.map (.renumber j)) := by
  generalize hu : t.toSetup = u at h
  induction h generalizing taken with
  | stop w =>
    cases answered
    rfl
  | @note n next w es _ ih =>
    have again : t.noted n = (u.running.noted n).renumber j := by
      rw [noted, did_running ht, hu]
      rfl
    rw [advance, ih answered, again, ← Progress.after_append]
    rfl
  | @handle e next w es _ ih =>
    rw [Entry.asks_append, Entry.asks_of_none (handle_no_ask e), List.nil_append] at answered
    rw [advance, ih answered, handle_running ht, hu, ← renumber_handle (i := i),
      ← Progress.after_append, List.map_append]
  | @ask c next reply events w es _ _ ih =>
    have first : Entry.asks (u.running.did (.ask u.blog c reply) events :: es) =
        u.running.did (.ask u.blog c reply) events :: Entry.asks es := rfl
    rw [first] at answered
    obtain ⟨s, taken, ⟨blog, call, deed, shown⟩, later, rfl⟩ :=
      List.forall₂_cons_left_iff.mp answered
    cases deed
    cases shown
    have again : t.did (.ask t.blog c (s.reply c)) [.called j t.blog c] =
        (u.running.did (.ask u.blog c (s.reply c)) [.called i u.blog c]).renumber j := by
      rw [did_running ht, hu, ← hu]
      rfl
    have served : t.advance j isOpen (.ask c next)
        (.ofEntries ((s :: taken).map .ungated)) =
        (t.advance j isOpen (next (s.reply c)) (.ofEntries (taken.map .ungated))).after
          [t.did (.ask t.blog c (s.reply c)) [.called j t.blog c]] := rfl
    rw [served, ih later, again, ← Progress.after_append]
    rfl

/-- Work that has come to its end closes in the same way again. -/
lemma advance_closing {o : Outcome} {closing : List Entry} (ht : t.status = .running)
    (h : Closing t i w o closing) (ho : o ≠ .cancelled) (j : Nat) (isOpen : String → Bool)
    (s : Service) :
    t.advance j isOpen w s = ⟨s, closing.map (.renumber j), t.finish o⟩ := by
  have running : t.inStatus .running = t := by rw [← ht]; rfl
  cases h with
  | returned r =>
    rw [running, renumber_returning]
    rfl
  | raised f =>
    rw [running]
    rfl
  | cancelled => exact absurd rfl ho

lemma Closing.congr {o : Outcome} {closing : List Entry} (h : Closing t i w o closing)
    (hv : v.toSetup = t.toSetup) : Closing v i w o closing := by
  obtain ⟨u, status, stage, stopped⟩ := v
  cases hv
  cases h with
  | returned r => exact returned (t := ⟨t.toSetup, status, stage, stopped⟩) r
  | raised f => exact raised (t := ⟨t.toSetup, status, stage, stopped⟩) f
  | cancelled w => exact cancelled w

/-- A task makes its calls in its work. -/
lemma Life.asks {args : List Argument} (h : Life t i args own) :
    ∃ mid w, Trace t.toSetup i (t.workOf args) mid w ∧ Entry.asks own = Entry.asks mid := by
  have opening (mid : List Entry) : Entry.asks (t.opening i ++ mid) = Entry.asks mid := by
    rw [Entry.asks_append, Task.opening, Entry.asks_of_none reportStart_no_ask, List.nil_append]
  cases h with
  | idle => exact ⟨[], _, .stop _, rfl⟩
  | abandoned => exact ⟨[], _, .stop _, Entry.asks_of_none reportStart_no_ask⟩
  | ready _ _ _ hmid | waiting _ _ _ hmid => exact ⟨_, _, hmid, opening _⟩
  | ended _ _ _ hmid hc =>
    refine ⟨_, _, hmid, ?_⟩
    rw [Entry.asks_append, opening, Entry.asks_of_none hc.no_ask, List.append_nil]

/-- A task that ended, and was not cancelled, does the same in its first turn when no gate stands
before the answers it was given. -/
lemma Life.replay {args : List Argument} (h : Life t i args own) {o : Outcome}
    (hs : t.stage = .ended o) (ho : o ≠ .cancelled)
    (answered : List.Forall₂ (Entry.AnsweredBy i) (Entry.asks own) taken)
    (hv : v.toSetup = t.toSetup) (hr : v.status = .running) (j : Nat) (isOpen : String → Bool) :
    ∃ es, v.advance j isOpen (t.workOf args) (.ofEntries (taken.map .ungated)) =
        ⟨.ofEntries [], es, v.finish o⟩ ∧
      own.map (.renumber j) = v.reportStart j ++ es := by
  cases h with
  | @ended o' w mid closing hs' _ _ hmid hc =>
    rw [hs] at hs'
    cases hs'
    have start : (t.opening i).map (.renumber j) = v.reportStart j := by
      rw [opening, renumber_reportStart]
      obtain ⟨u, status, stage, stopped⟩ := v
      cases hv
      cases hr
      rfl
    rw [Entry.asks_append, Entry.asks_append, Entry.asks_of_none hc.no_ask, opening,
      Entry.asks_of_none reportStart_no_ask, List.nil_append, List.append_nil] at answered
    rw [← hv] at hmid
    refine ⟨(mid ++ closing).map (.renumber j), ?_, ?_⟩
    · rw [advance_replay hr hmid answered, advance_closing hr (hc.congr hv) ho, List.map_append]
      rfl
    · rw [List.append_assoc, List.map_append, start]
  | idle h | abandoned h | ready h | waiting h => cases h.symm.trans hs

end Task

end BlogConsole
