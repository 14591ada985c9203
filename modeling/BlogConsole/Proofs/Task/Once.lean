import BlogConsole.Proofs.Task.Life

/-!
Tasks whose callbacks do not execute them again.

`once` takes the further executions out of the callbacks of a task, and the refusals out of what it
did. The two go together: whatever happens to a task happens to the other one as well, with the same
outcome, status and calls. So a refused execution leaves no trace but its refusal, which stands
right behind the report whose callback tried it.
-/

namespace BlogConsole

open Event

/-- A callback that returns or fails as before, but does not execute its task again. -/
def Reaction.once (r : Reaction) : Reaction := ⟨0, r.failure⟩

def Callbacks.once : Callbacks → Callbacks
  | .console => .console
  | .custom start complete => .custom start.once fun r => (complete r).once

/-- What a task is made of, but with callbacks that do not execute it again. -/
def Setup.once (u : Setup) : Setup := { u with callbacks := u.callbacks.once }

def Entry.unrefused (es : List Entry) : List Entry := es.filter fun e => !e.deed.isRefused

namespace Callbacks

variable (c : Callbacks)

lemma once_onStart : c.once.onStart = c.onStart.once := by cases c <;> rfl

lemma once_onComplete (r : Result) : c.once.onComplete r = (c.onComplete r).once := by
  cases c <;> rfl

lemma once_startEvent (i : Nat) (message : String) (status : Status) :
    c.once.startEvent i message status = c.startEvent i message status := by cases c <;> rfl

lemma once_completeEvent (i : Nat) (r : Result) (status : Status) :
    c.once.completeEvent i r status = c.completeEvent i r status := by cases c <;> rfl

end Callbacks

namespace Entry

variable {es fs : List Entry}

lemma unrefused_append : unrefused (es ++ fs) = unrefused es ++ unrefused fs :=
  List.filter_append ..

lemma unrefused_of_all (h : ∀ e ∈ es, e.deed.isRefused = true) : unrefused es = [] :=
  List.filter_eq_nil_iff.mpr fun e he => by simp [h e he]

lemma unrefused_of_none (h : ∀ e ∈ es, e.deed.isRefused = false) : unrefused es = es :=
  List.filter_eq_self.mpr fun e he => by simp [h e he]

end Entry

open Entry

namespace Task

def once (t : Task) : Task := { t with toSetup := t.toSetup.once }

def Progress.once (p : Progress) : Progress := ⟨p.service, unrefused p.record, p.task.once⟩

variable {t : Task} {i : Nat}

/-! ### Reports -/

lemma react_unrefused (r : Reaction) : unrefused (t.react i r) = [] :=
  unrefused_of_all fun _ he => (mem_react he).2.1

lemma once_react (r : Reaction) : t.once.react i r.once = [] := rfl

lemma once_reportStart : t.once.reportStart i = unrefused (t.reportStart i) := by
  have report : t.once.did (.start t.kind.progress)
      [t.once.callbacks.startEvent i t.kind.progress t.status] =
      t.did (.start t.kind.progress) [t.callbacks.startEvent i t.kind.progress t.status] :=
    congrArg (fun e => t.did _ [e]) (t.callbacks.once_startEvent i _ _)
  have reaction : t.once.react i t.once.callbacks.onStart = [] :=
    (congrArg _ t.callbacks.once_onStart).trans (once_react _)
  calc t.once.reportStart i
      = [t.did (.start t.kind.progress) [t.callbacks.startEvent i t.kind.progress t.status]] :=
        congrArg₂ _ report reaction
    _ = unrefused (t.reportStart i) :=
        (congrArg (_ :: ·) (react_unrefused t.callbacks.onStart)).symm

lemma once_reportResult (r : Result) :
    t.once.reportResult i r = unrefused (t.reportResult i r) := by
  have report : t.once.did (.complete r) [t.once.callbacks.completeEvent i r t.status] =
      t.did (.complete r) [t.callbacks.completeEvent i r t.status] :=
    congrArg (fun e => t.did _ [e]) (t.callbacks.once_completeEvent i _ _)
  have reaction : t.once.react i (t.once.callbacks.onComplete r) = [] :=
    (congrArg _ (t.callbacks.once_onComplete r)).trans (once_react _)
  calc t.once.reportResult i r
      = [t.did (.complete r) [t.callbacks.completeEvent i r t.status]] :=
        congrArg₂ _ report reaction
    _ = unrefused (t.reportResult i r) :=
        (congrArg (_ :: ·) (react_unrefused (t.callbacks.onComplete r))).symm

lemma once_outcomeOf (r : Result) : t.once.outcomeOf r = t.outcomeOf r := by
  have same : t.once.callbacks.onComplete r = (t.callbacks.onComplete r).once :=
    t.callbacks.once_onComplete r
  rw [outcomeOf, same, outcomeOf]
  rfl

lemma handle_unrefused (e : ApiError) : unrefused (t.handle i e) = t.handle i e := by
  refine unrefused_of_none fun entry he => ?_
  unfold handle at he
  split at he
  · simp at he
  · rcases List.mem_cons.mp he with rfl | he
    · rfl
    · split at he
      · simp at he
      · rw [List.mem_singleton] at he
        rw [he]
        rfl
  · rw [List.mem_singleton] at he
    rw [he]
    rfl

/-! ### What happens to a task -/

lemma once_after {p q : Progress} {es : List Entry} (h : p = q.once) (hes : unrefused es = es) :
    p.after es = (q.after es).once := by
  have record : es ++ unrefused q.record = unrefused (es ++ q.record) := by
    rw [unrefused_append, hes]
  rw [h]
  exact congrArg (fun record => (⟨q.service, record, q.task.once⟩ : Progress)) record

/-- The work of a task does not depend on further executions. -/
lemma once_advance (i : Nat) (isOpen : String → Bool) (w : Work) (s : Service) :
    t.once.advance i isOpen w s = (t.advance i isOpen w s).once := by
  induction w generalizing s with
  | done r =>
    have report : (t.once.inStatus .finished).reportResult i r =
        unrefused ((t.inStatus .finished).reportResult i r) :=
      once_reportResult (t := t.inStatus .finished) r
    rw [advance, once_outcomeOf, returning, report]
    rfl
  | failed f => rfl
  | note n next ih => exact once_after (ih s) rfl
  | handle e next ih => exact once_after (ih s) (handle_unrefused e)
  | ask c next ih =>
    have asked : unrefused [t.did (.ask t.blog c (s.serve i t.blog c).reply)
        (s.serve i t.blog c).events] =
        [t.did (.ask t.blog c (s.serve i t.blog c).reply) (s.serve i t.blog c).events] := rfl
    have goes := once_after (ih (s.serve i t.blog c).reply (s.serve i t.blog c).service) asked
    have same : t.once.blog = t.blog := rfl
    unfold advance
    rw [same]
    dsimp only
    split
    · split
      · exact goes
      · rfl
    · exact goes

lemma once_launch (args : List Argument) :
    (t.once.launch i args).record = unrefused (t.launch i args).record ∧
      (t.once.launch i args).task = (t.launch i args).task.once ∧
      (t.once.launch i args).failure = (t.launch i args).failure := by
  have start : (t.once.inStatus .running).reportStart i =
      unrefused ((t.inStatus .running).reportStart i) :=
    once_reportStart (t := t.inStatus .running)
  have same : t.once.callbacks.onStart.failure = t.callbacks.onStart.failure :=
    (congrArg Reaction.failure t.callbacks.once_onStart :)
  unfold launch
  dsimp only
  rw [same, start]
  split <;> exact ⟨rfl, rfl, rfl⟩

lemma once_turn (i : Nat) (isOpen : String → Bool) (s : Service) :
    t.once.turn i isOpen s = (t.turn i isOpen s).once := by
  have stage : t.once.stage = t.stage := rfl
  unfold turn
  rw [stage]
  split
  · next begun w _ =>
    by_cases h : t.stopped
    · have h' : t.once.stopped = true := h
      rw [if_pos h, if_pos h']
      cases begun <;> rfl
    · have h' : ¬ t.once.stopped = true := h
      rw [if_neg h, if_neg h']
      exact once_advance i isOpen w s
  · rfl

lemma once_freed (gate : String) : t.once.freed gate = (t.freed gate).once := by
  have stage : t.once.stage = t.stage := rfl
  unfold freed
  rw [stage]
  split
  · split <;> rfl
  · rfl

lemma once_stop : t.once.stop = t.stop.once := by
  have stage : t.once.stage = t.stage := rfl
  unfold stop
  rw [stage]
  split <;> rfl

lemma once_settled : t.once.settled = t.settled.once := by
  have stage : t.once.stage = t.stage := rfl
  unfold settled
  rw [stage]
  split <;> rfl

lemma once_settlement : t.once.settlement = unrefused t.settlement := by
  have stage : t.once.stage = t.stage := rfl
  unfold settlement
  rw [stage, once_settled]
  split <;> rfl

end Task

/-! ### Where the refusals stand -/

namespace Setup

variable (u : Setup)

/-- How often the callback that is called in a deed executes its task again. -/
def attempts : Deed → Nat
  | .start _ => u.callbacks.onStart.executions
  | .complete r => (u.callbacks.onComplete r).executions
  | _ => 0

def refusal (i : Nat) (status : Status) : Entry :=
  ⟨status, .refused (.alreadyExecuted status), [.refused i (.alreadyExecuted status)]⟩

/-- An entry of task number `i`, and behind it a refusal for every execution that the callback of
its deed tries. -/
def refusing (i : Nat) (e : Entry) : List Entry :=
  e :: List.replicate (u.attempts e.deed) (refusal i e.status)

end Setup

namespace Task

variable {t : Task} {i : Nat} {own : List Entry} {args : List Argument}

/-- A callback of a task that was executed is refused every time. -/
lemma react_eq (r : Reaction) (h : t.status ≠ .pending) :
    t.react i r = List.replicate r.executions (Setup.refusal i t.status) := by
  have again : t.again i = [Setup.refusal i t.status] := by
    rw [Task.again, refusal?, if_neg h]
    rfl
  rw [react, again, List.flatten_replicate_singleton]

/-- The refusals among entries stand where callbacks tried to execute their task again. -/
def Refusing (u : Setup) (i : Nat) (es : List Entry) : Prop :=
  es = (unrefused es).flatMap (u.refusing i)

lemma Refusing.append {u : Setup} {es fs : List Entry} (he : Refusing u i es)
    (hf : Refusing u i fs) : Refusing u i (es ++ fs) := by
  unfold Refusing at *
  rw [unrefused_append, List.flatMap_append, ← he, ← hf]

/-- Nobody tries to execute a task but the callbacks of its reports. -/
lemma refusing_of_mute {u : Setup} {es : List Entry}
    (h : ∀ e ∈ es, e.deed.isStart = false ∧ e.deed.isComplete = false ∧ e.deed.isRefused = false) :
    Refusing u i es := by
  have alone : ∀ e ∈ es, u.refusing i e = [e] := by
    intro e he
    obtain ⟨start, complete, -⟩ := h e he
    rw [Setup.refusing]
    cases hd : e.deed with
    | start | complete => rw [hd] at start complete; contradiction
    | _ => rfl
  rw [Refusing, unrefused_of_none fun e he => (h e he).2.2, List.flatMap_congr alone,
    List.flatMap_singleton']

lemma refusing_report {u : Setup} {e : Entry} {n : Nat} (hd : e.deed.isRefused = false)
    (hn : u.attempts e.deed = n) :
    Refusing u i (e :: List.replicate n (Setup.refusal i e.status)) := by
  have one : unrefused (e :: List.replicate n (Setup.refusal i e.status)) = [e] := by
    have refusals : unrefused (List.replicate n (Setup.refusal i e.status)) = [] :=
      unrefused_of_all fun _ he => by rw [List.eq_of_mem_replicate he]; rfl
    rw [unrefused, List.filter_cons_of_pos (by simp [hd])]
    exact congrArg _ refusals
  rw [Refusing, one, List.flatMap_singleton, Setup.refusing, hn]

lemma opening_refusing : Refusing t.toSetup i (t.opening i) := by
  rw [opening, reportStart, react_eq _ (by simp [inStatus])]
  exact refusing_report rfl rfl

lemma Closing.refusing {w : Work} {o : Outcome} {closing : List Entry}
    (h : Closing t i w o closing) : Refusing t.toSetup i closing := by
  cases h with
  | returned r =>
    rw [returning, reportResult, react_eq _ (by simp [inStatus])]
    have quiet : Refusing t.toSetup i [(t.inStatus .running).did (.returned r) []] :=
      refusing_of_mute (by simp [did, Deed.isStart, Deed.isComplete, Deed.isRefused])
    exact quiet.append (refusing_report rfl rfl)
  | raised f =>
    exact refusing_of_mute (by simp [raising, noted, did, Deed.isStart, Deed.isComplete,
      Deed.isRefused])
  | cancelled =>
    exact refusing_of_mute (by simp [cancellation, noted, did, Deed.isStart, Deed.isComplete,
      Deed.isRefused])

/-- Whatever a task does, each of its refusals stands behind the report whose callback tried it. -/
lemma Life.refusing (h : Life t i args own) : Refusing t.toSetup i own := by
  have worked {w : Work} {mid : List Entry} (h : Trace t.toSetup i (t.workOf args) mid w) :
      Refusing t.toSetup i (t.opening i ++ mid) := by
    refine opening_refusing.append (refusing_of_mute fun e he => ?_)
    have work := (isWork_of_trace h e he).deed
    cases hd : e.deed with
    | ask | note | handle => exact ⟨rfl, rfl, rfl⟩
    | _ => rw [hd] at work; cases work
  cases h with
  | idle => rfl
  | abandoned => exact opening_refusing
  | ready _ _ _ hmid => exact worked hmid
  | waiting _ _ _ hmid => exact worked hmid
  | ended _ _ _ hmid hc => exact (worked hmid).append hc.refusing

end Task

end BlogConsole
