import BlogConsole.Proofs.Loop.Kept

/-!
What holds of every loop that steps lead to: it keeps its tasks, and each of them lives its life.

A step does to each task one of six things. All further results on the lives of tasks are about
these, whatever the other tasks do meanwhile.
-/

namespace BlogConsole

/-! ### One task -/

namespace Task

variable {t t' : Task} {i : Nat} {own es : List Entry} {args : List Argument}
  {s : Loop.Step}

/-- What a step of the loop comes to for one task: the entries it makes, and the task then. The end
of a task that was stopped is what a turn comes to as well. -/
inductive Moved (t : Task) (i : Nat) : Loop.Step → List Entry → Task → Prop
  | same (s : Loop.Step) : Moved t i s [] t
  | launched (args : List Argument) :
      t.status = .pending →
      Moved t i (.execute i args) (t.launch i args).record (t.launch i args).task
  | freed (gate : String) : Moved t i (.release gate) [] (t.freed gate)
  | stopped : Moved t i (.cancel i) [] t.stop
  | turned {begun : Bool} {w : Work} {isOpen : String → Bool} {es : List Entry} {t' : Task} :
      t.stage = .ready begun w → t.stopped = false → Turned t i isOpen w es t' →
      Moved t i .run es t'
  | cancelled {begun : Bool} {w : Work} :
      t.stage = .ready begun w → t.stopped = true →
      Moved t i .run [t.cancellation] (t.finish .cancelled)

/-- A task goes on with the arguments with which it was executed. -/
lemma Life.moved (h : Life t i args own) (hm : Moved t i s es t') :
    ∃ args', Life t' i args' (own ++ es) ∧ (t.stage ≠ .idle → args' = args) := by
  cases hm with
  | same => exact ⟨args, by rwa [List.append_nil], fun _ => rfl⟩
  | launched args' hp =>
    obtain ⟨rfl, life⟩ := h.launch hp args'
    exact ⟨args', life, fun hidle => absurd (h.idle_of_pending hp) hidle⟩
  | freed gate => exact ⟨args, by rw [List.append_nil]; exact h.freed gate, fun _ => rfl⟩
  | stopped => exact ⟨args, by rw [List.append_nil]; exact h.stop, fun _ => rfl⟩
  | turned hs _ ht => exact ⟨args, h.turned hs ht, fun _ => rfl⟩
  | cancelled hs _ => exact ⟨args, h.cancelled hs, fun _ => rfl⟩

/-- No step changes what a task is made of. -/
lemma Moved.setup (h : Moved t i s es t') : t'.toSetup = t.toSetup := by
  cases h with
  | same => rfl
  | launched args =>
    unfold launch
    dsimp only
    split <;> rfl
  | freed gate =>
    unfold Task.freed
    split
    · split <;> rfl
    · rfl
  | stopped =>
    unfold stop
    split <;> rfl
  | turned _ _ ht => cases ht <;> rfl
  | cancelled => rfl

end Task

/-! ### All tasks -/

namespace Loop

variable {l : Loop} {gates : String → Prop} {i : Nat} {t : Task}

/-- The loop keeps its tasks, and their lives are sound. -/
structure Sound (gates : String → Prop) (l : Loop) : Prop where
  kept : Kept gates l l.queue
  life : ∀ i t, l.task? i = some t → ∃ args, t.Life i args (l.own i)
  absent : ∀ i, l.task? i = none → l.own i = []

/-- In a run a ready task goes on with its work, unless it was stopped. -/
lemma Sound.run_ready (h : Sound gates l) (ht : l.task? i = some t) {begun : Bool} {w : Work}
    (hs : t.stage = .ready begun w) :
    ∃ es t', l.run.task? i = some t' ∧ l.run.own i = l.own i ++ es ∧
      (t.stopped = false ∧ t.Turned i l.isOpen w es t' ∨
        t.stopped = true ∧ es = [t.cancellation] ∧ t' = t.finish .cancelled) := by
  have hi : i ∈ l.queue :=
    ((h.kept.placed i).of_ready ((stage?_some ht).trans (congrArg some hs))).1
  obtain ⟨s, task, own⟩ := run_of_mem h.kept.turns_nodup hi ht
  rw [List.append_assoc] at own
  obtain ⟨args, life⟩ := h.life i t ht
  exact ⟨_, _, task, own, life.turn hs i l.isOpen s⟩

lemma Sound.step_moved (h : Sound gates l) (ht : l.task? i = some t) (s : Step) :
    ∃ es t', t.Moved i s es t' ∧ (l.step s).task? i = some t' ∧
      (l.step s).own i = l.own i ++ es := by
  have still {l' : Loop} (h : l'.task? i = l.task? i ∧ l'.own i = l.own i) :
      ∃ es t', t.Moved i s es t' ∧ l'.task? i = some t' ∧ l'.own i = l.own i ++ es :=
    ⟨[], t, .same s, h.1.trans ht, by rw [h.2, List.append_nil]⟩
  cases s with
  | execute j args =>
    by_cases hj : j = i
    · subst hj
      cases hr : t.refusal? with
      | some f =>
        refine still ?_
        rw [step, execute_refused ht args hr]
        exact ⟨rfl, rfl⟩
      | none =>
        have hp := Task.pending_of_refusal? hr
        obtain ⟨task, own⟩ := execute_self ht args hp
        exact ⟨_, _, .launched args hp, task, own⟩
    · exact still (execute_of_ne hj args)
  | run =>
    by_cases hi : i ∈ l.queue
    · obtain ⟨u, begun, w, hu, hs, -⟩ := (h.kept.placed i).of_mem hi
      rw [ht] at hu
      cases hu
      obtain ⟨es, t', task, own, ⟨hstop, turned⟩ | ⟨hstop, rfl, rfl⟩⟩ := h.run_ready ht hs
      · exact ⟨es, t', .turned hs hstop turned, task, own⟩
      · exact ⟨_, _, .cancelled hs hstop, task, own⟩
    · exact still (run_of_notMem hi)
  | release gate =>
    refine ⟨[], _, .freed gate, ?_, (List.append_nil _).symm⟩
    rw [step, task?_release, ht, Option.map_some]
  | cancel j =>
    by_cases hj : j = i
    · subst hj
      obtain ⟨task, own⟩ := cancel_self ht
      exact ⟨[], _, .stopped, task, by rw [List.append_nil]; exact own⟩
    · exact still (cancel_of_ne hj)

/-- Steps neither make tasks nor entries of tasks that there are not. -/
lemma Kept.step_absent (h : Kept gates l l.queue) (ht : l.task? i = none) (s : Step) :
    (l.step s).task? i = none ∧ (l.step s).own i = l.own i := by
  have still {l' : Loop} (h : l'.task? i = l.task? i ∧ l'.own i = l.own i) :
      l'.task? i = none ∧ l'.own i = l.own i := ⟨h.1.trans ht, h.2⟩
  cases s with
  | execute j args =>
    by_cases hj : j = i
    · subst hj
      rw [step, execute_none ht]
      exact ⟨ht, rfl⟩
    · exact still (execute_of_ne hj args)
  | run =>
    refine still (run_of_notMem fun hi => ?_)
    obtain ⟨u, begun, w, hu, -⟩ := (h.placed i).of_mem hi
    rw [ht] at hu
    cases hu
  | release gate =>
    refine ⟨?_, rfl⟩
    rw [step, task?_release, ht, Option.map_none]
  | cancel j =>
    by_cases hj : j = i
    · subst hj
      rw [step, cancel_none ht]
      exact ⟨ht, rfl⟩
    · exact still (cancel_of_ne hj)

namespace Sound

lemma step (h : Sound gates l) (s : Step) : Sound gates (l.step s) := by
  constructor
  case kept =>
    cases s with
    | execute i args =>
      refine h.kept.execute (fun t ht hp => ?_) args
      obtain ⟨args', life⟩ := h.life i t ht
      exact life.idle_of_pending hp
    | run =>
      have kept := h.kept.run
      rwa [← run_same.2] at kept
    | release gate => exact h.kept.release gate
    | cancel i => exact h.kept.cancel i
  case life =>
    intro i t' ht'
    cases ht : l.task? i with
    | none =>
      rw [(h.kept.step_absent ht s).1] at ht'
      cases ht'
    | some t =>
      obtain ⟨es, u, moved, task, own⟩ := h.step_moved ht s
      rw [task] at ht'
      cases ht'
      rw [own]
      obtain ⟨args, life⟩ := h.life i t ht
      obtain ⟨args', life', -⟩ := life.moved moved
      exact ⟨args', life'⟩
  case absent =>
    intro i ht'
    cases ht : l.task? i with
    | none => rw [(h.kept.step_absent ht s).2, h.absent i ht]
    | some t =>
      obtain ⟨es, u, -, task, -⟩ := h.step_moved ht s
      rw [task] at ht'
      cases ht'

lemma steps (h : Sound gates l) (ss : List Step) : Sound gates (l.steps ss) := by
  induction ss generalizing l with
  | nil => exact h
  | cons s ss ih => exact ih (h.step s)

end Sound

lemma task?_new (service : Service) (setups : List Setup) (i : Nat) :
    (new service (setups.map Task.ofSetup)).task? i = setups[i]?.map Task.ofSetup :=
  List.getElem?_map

lemma new_sound (service : Service) (setups : List Setup) :
    Sound service.Gated (new service (setups.map Task.ofSetup)) := by
  have idle {i : Nat} {t : Task} (h : (new service (setups.map Task.ofSetup)).task? i = some t) :
      t.stage = .idle ∧ t.status = .pending := by
    rw [task?_new] at h
    obtain ⟨u, -, rfl⟩ := Option.map_eq_some_iff.mp h
    exact ⟨rfl, rfl⟩
  constructor
  case kept =>
    refine ⟨List.nodup_nil, List.nodup_nil, fun i => ?_, fun _ h => h⟩
    refine .still (fun stage hstage => ?_) List.not_mem_nil List.not_mem_nil
    obtain ⟨t, ht, rfl⟩ := Option.map_eq_some_iff.mp hstage
    rw [(idle ht).1]
    trivial
  case life =>
    intro i t ht
    exact ⟨[], .idle (idle ht).1 (idle ht).2⟩
  case absent => exact fun _ _ => rfl

/-- Every loop that steps lead to is sound. Its gates are those of the service. -/
theorem after_sound (service : Service) (setups : List Setup) (ss : List Step) :
    Sound service.Gated (after service setups ss) :=
  (new_sound service setups).steps ss

lemma Sound.setup_steps (h : Sound gates l) (ss : List Step) (i : Nat) :
    ((l.steps ss).task? i).map (·.toSetup) = (l.task? i).map (·.toSetup) := by
  induction ss generalizing l with
  | nil => rfl
  | cons s ss ih =>
    refine (ih (h.step s)).trans ?_
    cases ht : l.task? i with
    | none => rw [(h.kept.step_absent ht s).1]
    | some t =>
      obtain ⟨es, t', moved, task, -⟩ := h.step_moved ht s
      rw [task, Option.map_some, Option.map_some, moved.setup]

theorem after_setup (service : Service) (setups : List Setup) (ss : List Step) (i : Nat) :
    ((after service setups ss).task? i).map (·.toSetup) = setups[i]? := by
  refine ((new_sound service setups).setup_steps ss i).trans ?_
  rw [task?_new, Option.map_map]
  exact Option.map_id'

end Loop

end BlogConsole
