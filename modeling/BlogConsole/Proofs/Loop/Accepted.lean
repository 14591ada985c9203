import BlogConsole.Proofs.Loop.Sound
import Mathlib.Data.List.Induction

/-!
Tasks whose execution was accepted, and how far steps bring them.

From its start on such a task is ready, waits or has ended. A run takes it from ready to one of the
other two. The steps between the runs leave a ready task ready and add nothing to its entries, and
nothing at all changes a task that has ended.
-/

namespace BlogConsole

namespace Task

variable {t t' : Task} {i : Nat} {own es : List Entry} {args : List Argument}
  {s : Loop.Step}

/-- The task was executed and its start did not fail. -/
def Underway (t : Task) : Prop :=
  match t.stage with
  | .idle => False
  | .abandoned => False
  | _ => True

lemma underway_of_ready {begun : Bool} {w : Work} (h : t.stage = .ready begun w) : t.Underway := by
  rw [Underway, h]
  trivial

lemma Underway.not_idle (h : t.Underway) : t.stage ≠ .idle := by
  intro hs
  rw [Underway, hs] at h
  exact h

lemma Underway.moved (hu : t.Underway) (h : Life t i args own) (hm : Moved t i s es t') :
    t'.Underway := by
  cases hm with
  | same => exact hu
  | launched args hp => exact absurd (h.idle_of_pending hp) hu.not_idle
  | freed gate =>
    unfold Task.freed
    split
    · split
      · trivial
      · exact hu
    · exact hu
  | stopped =>
    unfold stop
    split
    · next hs => exact underway_of_ready (t := { t with stopped := true }) hs
    · trivial
    · exact hu
  | turned _ _ ht => cases ht <;> trivial
  | cancelled => trivial

/-- The task was not asked to stop, and has not ended so. -/
structure Uncancelled (t : Task) : Prop where
  unstopped : t.stopped = false
  outcome : t.outcome? ≠ some .cancelled

/-- Only a request to stop leads to a cancellation. -/
lemma Uncancelled.moved (h : t.Uncancelled) (hm : Moved t i s es t') (hs : s ≠ .cancel i) :
    t'.Uncancelled := by
  cases hm with
  | same => exact h
  | launched args hp =>
    unfold launch
    dsimp only
    split <;> exact ⟨h.unstopped, fun ho => by cases ho⟩
  | freed gate =>
    unfold Task.freed
    split
    · split
      · exact ⟨h.unstopped, fun ho => by cases ho⟩
      · exact h
    · exact h
  | stopped => exact absurd rfl hs
  | turned _ _ ht =>
    cases ht with
    | waits => exact ⟨h.unstopped, fun ho => by cases ho⟩
    | ends _ _ ho => exact ⟨h.unstopped, fun hend => ho (Option.some.inj hend)⟩
  | cancelled _ hstop =>
    rw [h.unstopped] at hstop
    cases hstop

/-- A task that has ended is finished, and nothing moves it. -/
lemma Moved.of_ended (h : Life t i args own) (hm : Moved t i s es t') {o : Outcome}
    (ho : t.stage = .ended o) : t' = t ∧ es = [] := by
  cases hm with
  | same => exact ⟨rfl, rfl⟩
  | launched args hp =>
    have := h.idle_of_pending hp
    rw [ho] at this
    cases this
  | freed gate => rw [Task.freed, ho]; exact ⟨rfl, rfl⟩
  | stopped => rw [stop, ho]; exact ⟨rfl, rfl⟩
  | turned hs | cancelled hs => rw [ho] at hs; cases hs

/-- A task gets underway only when it is executed. -/
lemma Moved.of_underway (hm : Moved t i s es t') (hu : t'.Underway) :
    t.Underway ∨ ∃ args, s = .execute i args ∧ t.status = .pending ∧
      t.callbacks.onStart.failure = none := by
  cases hm with
  | same => exact .inl hu
  | launched args hp =>
    cases hf : t.callbacks.onStart.failure with
    | none => exact .inr ⟨args, rfl, hp, rfl⟩
    | some f =>
      rw [launch_fails args hf] at hu
      exact hu.elim
  | freed gate =>
    unfold Task.freed at hu
    split at hu
    · next hs => exact .inl (by rw [Underway, hs]; trivial)
    · exact .inl hu
  | stopped =>
    unfold stop at hu
    split at hu
    · exact .inl hu
    · next hs => exact .inl (by rw [Underway, hs]; trivial)
    · exact .inl hu
  | turned hs | cancelled hs => exact .inl (underway_of_ready hs)

end Task

namespace Loop

variable {l : Loop} {gates : String → Prop} {i : Nat} {t : Task} {ss : List Step}
variable {service : Service} {setups : List Setup} {args : List Argument}

/-! ### Steps -/

lemma steps_append (l : Loop) (ss rest : List Step) :
    l.steps (ss ++ rest) = (l.steps ss).steps rest := List.foldl_append

lemma after_append (rest : List Step) :
    after service setups (ss ++ rest) = (after service setups ss).steps rest := steps_append _ _ _

lemma Sound.start_unfailing (h : Sound gates l)
    (ht : l.task? i = some t) {o : Outcome} (hs : t.stage = .ended o) :
    t.callbacks.onStart.failure = none := by
  obtain ⟨args, life⟩ := h.life i t ht
  generalize l.own i = own at life
  cases life with
  | ended _ _ hf => exact hf
  | idle h | abandoned h | ready h | waiting h => cases h.symm.trans hs

/-- Nothing changes a task that has ended. -/
lemma Sound.steps_ended (h : Sound gates l) (ht : l.task? i = some t) {o : Outcome}
    (ho : t.stage = .ended o) (ss : List Step) :
    (l.steps ss).task? i = some t ∧ (l.steps ss).own i = l.own i := by
  induction ss generalizing l with
  | nil => exact ⟨ht, rfl⟩
  | cons s ss ih =>
    obtain ⟨es, t', moved, task, own⟩ := h.step_moved ht s
    obtain ⟨args, life⟩ := h.life i t ht
    obtain ⟨rfl, rfl⟩ := moved.of_ended life ho
    rw [List.append_nil] at own
    obtain ⟨task', own'⟩ := ih (h.step s) task
    exact ⟨task', own'.trans own⟩

/-- A task stays underway, with the arguments with which it was executed. -/
lemma Sound.steps_underway (h : Sound gates l) (ht : l.task? i = some t) (hu : t.Underway)
    (life : t.Life i args (l.own i)) (ss : List Step) :
    ∃ u, (l.steps ss).task? i = some u ∧ u.Underway ∧ u.Life i args ((l.steps ss).own i) := by
  induction ss generalizing l t with
  | nil => exact ⟨t, ht, hu, life⟩
  | cons s ss ih =>
    obtain ⟨es, t', moved, task, own⟩ := h.step_moved ht s
    obtain ⟨args', life', hargs⟩ := life.moved moved
    rw [hargs hu.not_idle, ← own] at life'
    exact ih (h.step s) task (hu.moved life moved) life'

lemma Sound.steps_uncancelled (h : Sound gates l) (ht : l.task? i = some t) (hu : t.Uncancelled)
    (hs : .cancel i ∉ ss) : ∃ u, (l.steps ss).task? i = some u ∧ u.Uncancelled := by
  induction ss generalizing l t with
  | nil => exact ⟨t, ht, hu⟩
  | cons s ss ih =>
    rw [List.mem_cons, not_or] at hs
    obtain ⟨es, t', moved, task, -⟩ := h.step_moved ht s
    exact ih (h.step s) task (hu.moved moved (Ne.symm hs.1)) hs.2

/-- Between the runs a ready task stays where it is, and a stopped one stays stopped. -/
lemma Sound.step_ready (h : Sound gates l) (ht : l.task? i = some t) {begun : Bool} {w : Work}
    (hs : t.stage = .ready begun w) {s : Step} (hrun : s ≠ .run) :
    ∃ u, (l.step s).task? i = some u ∧ (l.step s).own i = l.own i ∧ u.stage = .ready begun w ∧
      u.toSetup = t.toSetup ∧ (t.stopped = true → u.stopped = true) := by
  obtain ⟨es, u, moved, task, own⟩ := h.step_moved ht s
  obtain ⟨args, life⟩ := h.life i t ht
  have setup := moved.setup
  cases moved with
  | same => exact ⟨t, task, own.trans (List.append_nil _), hs, setup, id⟩
  | launched args hp =>
    rw [life.running_of_ready hs] at hp
    cases hp
  | freed gate =>
    have unmoved : t.freed gate = t := by rw [Task.freed, hs]
    rw [unmoved] at task
    exact ⟨t, task, own.trans (List.append_nil _), hs, rfl, id⟩
  | stopped =>
    rw [Task.stop_ready hs] at task
    exact ⟨_, task, own.trans (List.append_nil _), hs, rfl, fun _ => rfl⟩
  | turned | cancelled => exact absurd rfl hrun

lemma Sound.steps_ready (h : Sound gates l) (ht : l.task? i = some t) {begun : Bool} {w : Work}
    (hs : t.stage = .ready begun w) (hrun : .run ∉ ss) :
    ∃ u, (l.steps ss).task? i = some u ∧ (l.steps ss).own i = l.own i ∧
      u.stage = .ready begun w ∧ u.toSetup = t.toSetup ∧ (t.stopped = true → u.stopped = true) := by
  induction ss generalizing l t with
  | nil => exact ⟨t, ht, rfl, hs, rfl, id⟩
  | cons s ss ih =>
    rw [List.mem_cons, not_or] at hrun
    obtain ⟨u, hu, own, stage, setup, stop⟩ := h.step_ready ht hs (Ne.symm hrun.1)
    obtain ⟨u', hu', own', stage', setup', stop'⟩ := ih (h.step s) hu stage hrun.2
    exact ⟨u', hu', own'.trans own, stage', setup'.trans setup, stop' ∘ stop⟩

lemma after_uncancelled (hs : .cancel i ∉ ss) :
    (after service setups ss).outcome? i ≠ some .cancelled := by
  have fresh := new_sound service setups
  cases hu : setups[i]? with
  | none =>
    have made := after_setup service setups ss i
    rw [hu, Option.map_eq_none_iff] at made
    rw [outcome?, made]
    exact fun h => by cases h
  | some u =>
    have ht : (new service (setups.map Task.ofSetup)).task? i = some (Task.ofSetup u) := by
      rw [task?_new, hu, Option.map_some]
    obtain ⟨t, ht', uncancelled⟩ := fresh.steps_uncancelled ht ⟨rfl, fun h => by cases h⟩ hs
    rw [after, outcome?_some ht']
    exact uncancelled.outcome

/-! ### Acceptance -/

/-- One of the steps executed the task with some arguments, and its start did not fail. -/
def Accepted (service : Service) (setups : List Setup) (ss : List Step) (i : Nat)
    (args : List Argument) : Prop :=
  ∃ before later, ss = before ++ .execute i args :: later ∧
    ((after service setups before).execute i args).2 = .ok ()

/-- An accepted task is ready for its first turn, and has done nothing but start. -/
lemma Sound.execute_ok (h : Sound gates l) (ht : l.task? i = some t)
    (hok : (l.execute i args).2 = .ok ()) :
    ∃ u w, (l.execute i args).1.task? i = some u ∧ u.stage = .ready false w ∧
      u.Life i args ((l.execute i args).1.own i) ∧ (l.execute i args).1.own i = u.opening i := by
  cases hr : t.refusal? with
  | some f =>
    rw [execute_refused ht args hr] at hok
    cases hok
  | none =>
    have hp := Task.pending_of_refusal? hr
    cases hf : t.callbacks.onStart.failure with
    | some f =>
      rw [execute_fails ht args hp hf] at hok
      cases hok
    | none =>
      obtain ⟨task, own⟩ := execute_self ht args hp
      obtain ⟨args', life⟩ := h.life i t ht
      obtain ⟨fresh, life⟩ := life.launch hp args
      rw [fresh, List.nil_append] at own
      rw [Task.launch_starts args hf] at task life
      refine ⟨_, _, task, rfl, own ▸ life, ?_⟩
      rw [own, Task.launch, hf]
      rfl

lemma exists_task (service : Service) (ss : List Step) (hi : i < setups.length) :
    ∃ t, (after service setups ss).task? i = some t ∧ t.toSetup = setups[i] := by
  have made := after_setup service setups ss i
  rw [List.getElem?_eq_getElem hi] at made
  exact Option.map_eq_some_iff.mp made

lemma start_ok {before : List Step} (hi : i < setups.length)
    (hok : ((after service setups before).execute i args).2 = .ok ()) :
    ∃ t w, (after service setups (before ++ [.execute i args])).task? i = some t ∧
      t.stage = .ready false w ∧
      t.Life i args ((after service setups (before ++ [.execute i args])).own i) ∧
      (after service setups (before ++ [.execute i args])).own i = t.opening i := by
  obtain ⟨t, ht, -⟩ := exists_task service before hi
  rw [after_append]
  exact (after_sound service setups before).execute_ok ht hok

lemma Accepted.underway (hi : i < setups.length) (h : Accepted service setups ss i args) :
    ∃ t, (after service setups ss).task? i = some t ∧ t.toSetup = setups[i] ∧ t.Underway ∧
      t.Life i args ((after service setups ss).own i) := by
  obtain ⟨before, later, rfl, hok⟩ := h
  obtain ⟨t, w, ht, hs, life, -⟩ := start_ok hi hok
  rw [List.append_cons, after_append]
  obtain ⟨u, hu, underway⟩ :=
    (after_sound service setups _).steps_underway ht (Task.underway_of_ready hs) life later
  obtain ⟨u', hu', setup⟩ :=
    exists_task service (before ++ [.execute i args] ++ later) hi
  rw [after_append, hu] at hu'
  cases hu'
  exact ⟨u, hu, setup, underway⟩

lemma accepted_of_underway (ht : (after service setups ss).task? i = some t) (hu : t.Underway) :
    ∃ args, Accepted service setups ss i args := by
  induction ss using List.reverseRecOn generalizing t with
  | nil =>
    rw [after, steps, List.foldl_nil, task?_new] at ht
    obtain ⟨u, -, rfl⟩ := Option.map_eq_some_iff.mp ht
    exact hu.elim
  | append_singleton ss s ih =>
    have sound := after_sound service setups ss
    rw [after_append] at ht
    cases hv : (after service setups ss).task? i with
    | none =>
      rw [steps, List.foldl_cons, List.foldl_nil, (sound.kept.step_absent hv s).1] at ht
      cases ht
    | some v =>
      obtain ⟨es, t', moved, task, -⟩ := sound.step_moved hv s
      obtain rfl : t' = t := Option.some.inj (task.symm.trans ht)
      obtain before | ⟨args, rfl, pending, start⟩ := moved.of_underway hu
      · obtain ⟨args, before, later, rfl, hok⟩ := ih hv before
        exact ⟨args, before, later ++ [s], by simp, hok⟩
      · refine ⟨args, ss, [], rfl, ?_⟩
        rw [execute_starts hv args pending start]

end Loop

end BlogConsole
