import BlogConsole.Proofs.Loop.Agreement

/-!
Cancellation is final.

A task that is stopped is ready from then on, whether it had begun, and a turn of a stopped task
does nothing but end it. So its entries stay as they are up to the next run, which adds the notice
of its cancellation, and nothing is added after that.
-/

namespace BlogConsole

namespace Task

variable {t u : Task}

lemma cancellation_congr (h : u.toSetup = t.toSetup) : u.cancellation = t.cancellation := by
  have hk : u.kind = t.kind := congrArg Setup.kind h
  unfold cancellation noted did inStatus
  rw [hk]

end Task

namespace Loop

variable {l : Loop} {gates : String → Prop} {i : Nat} {t : Task} {rest : List Step}

lemma Sound.steps_stopped (h : Sound gates l) (ht : l.task? i = some t) {begun : Bool} {w : Work}
    (hs : t.stage = .ready begun w) (hstop : t.stopped = true) (hrun : .run ∈ rest) :
    ∃ u : Task, (l.steps rest).task? i = some (u.finish .cancelled) ∧
      (l.steps rest).own i = l.own i ++ [t.cancellation] := by
  obtain ⟨before, later, rfl, hbefore⟩ := List.eq_append_cons_of_mem hrun
  obtain ⟨u, hu, own, stage, setup, stop⟩ := h.steps_ready ht hs hbefore
  have sound := h.steps before
  obtain ⟨es, t', task, own', ⟨go, -⟩ | ⟨-, rfl, rfl⟩⟩ := sound.run_ready hu stage
  · rw [stop hstop] at go
    cases go
  · obtain ⟨task', own''⟩ := (sound.step .run).steps_ended task rfl later
    rw [steps_append]
    refine ⟨u, task', own''.trans (own'.trans ?_)⟩
    rw [own, Task.cancellation_congr setup]

/-- What becomes of a task that is stopped in a loop, in the one that further steps lead to: up to
the next run it does nothing, and in that run it ends and does nothing more. -/
structure Stopped (l l' : Loop) (i : Nat) (name : String) (rest : List Step) : Prop where
  keeps : l.own i <+: l'.own i
  silent : ∀ e ∈ (l'.own i).drop (l.own i).length,
    e.deed.isOutward = false ∧ e.deed.isComplete = false
  waits : .run ∉ rest → l'.outcome? i = none ∧ l'.own i = l.own i
  ends : .run ∈ rest → l'.outcome? i = some .cancelled ∧ l'.status i = .finished ∧
    Entry.verdicts (l'.own i) = [.taskCancelled name]

/-- A task that is underway can be stopped unless it has ended, and is ready then. -/
lemma cancel_underway (ht : l.task? i = some t) (hu : t.Underway) (ho : t.outcome? = none) :
    (l.cancel i).2 = true ∧
      ∃ begun w, t.stop.stage = .ready begun w ∧ t.stop.stopped = true ∧
        t.stop.toSetup = t.toSetup := by
  cases hs : t.stage with
  | ready begun w =>
    rw [cancel_ready ht hs, Task.stop_ready hs]
    exact ⟨rfl, begun, w, hs, rfl, rfl⟩
  | waiting gate w =>
    rw [cancel_waiting ht hs, Task.stop_waiting hs]
    exact ⟨rfl, true, w, rfl, rfl, rfl⟩
  | idle | abandoned => rw [Task.Underway, hs] at hu; exact hu.elim
  | ended o => rw [Task.outcome?, hs] at ho; cases ho

lemma Sound.stopped (h : Sound gates l) (ht : l.task? i = some t) (hu : t.Underway)
    (ho : t.outcome? = none) (rest : List Step) :
    Stopped l (l.steps (.cancel i :: rest)) i t.kind.name rest := by
  obtain ⟨-, begun, w, stage, stop, setup⟩ := cancel_underway ht hu ho
  obtain ⟨task, own⟩ := cancel_self ht
  have sound := h.step (.cancel i)
  by_cases hrun : .run ∈ rest
  · obtain ⟨u, task', own'⟩ := sound.steps_stopped task stage stop hrun
    have entries : (l.steps (.cancel i :: rest)).own i = l.own i ++ [t.cancellation] := by
      rw [← own, ← Task.cancellation_congr setup]
      exact own'
    constructor
    case keeps => exact ⟨_, entries.symm⟩
    case silent =>
      rw [entries, List.drop_left]
      exact List.forall_mem_singleton.mpr ⟨rfl, rfl⟩
    case waits => exact fun h => absurd hrun h
    case ends =>
      intro _
      refine ⟨outcome?_some task', status_some task', ?_⟩
      obtain ⟨args, life⟩ := h.life i t ht
      rw [entries, Entry.verdicts_append, (life.agrees.of_none ho).verdicts]
      rfl
  · obtain ⟨u, task', own', stage', -⟩ := sound.steps_ready task stage hrun
    have entries : (l.steps (.cancel i :: rest)).own i = l.own i := own'.trans own
    constructor
    case keeps => exact ⟨[], (List.append_nil _).trans entries.symm⟩
    case silent =>
      rw [entries, List.drop_length]
      exact List.forall_mem_nil _
    case waits =>
      refine fun _ => ⟨(outcome?_some task').trans ?_, entries⟩
      rw [Task.outcome?, stage']
    case ends => exact fun h => absurd h hrun

/-- A task that is stopped before its first turn never calls the service. -/
lemma no_ask_before_turn {service : Service} {setups : List Setup} {args : List Argument}
    {before between : List Step} (hi : i < setups.length) (hrun : .run ∉ between)
    (hok : ((after service setups before).execute i args).2 = .ok ()) (rest : List Step) :
    ∀ e ∈ (after service setups (before ++ .execute i args :: between ++ .cancel i :: rest)).own i,
      e.deed.isAsk = false := by
  obtain ⟨u, w, hu, stage, -, own⟩ := start_ok hi hok
  have sound := after_sound service setups (before ++ [.execute i args])
  obtain ⟨t, task, own', stage', -⟩ := sound.steps_ready hu stage hrun
  -- the task has only started before it is stopped, and does nothing afterwards
  have stopped := (sound.steps between).stopped task (Task.underway_of_ready stage')
    (by rw [Task.outcome?, stage']) rest
  rw [← after_append, ← List.append_cons] at own' stopped
  rw [← after_append] at stopped
  obtain ⟨es, hes⟩ := stopped.keeps
  have silent := stopped.silent
  rw [← hes, List.drop_left] at silent
  intro e he
  rw [← hes, own', own] at he
  rcases List.mem_append.mp he with he | he
  · exact Task.reportStart_no_ask e he
  · exact Deed.not_isAsk (silent e he).1

/-- **Cancellation is final.** A task that was executed and has not ended can be stopped. From then
on it calls neither the service nor its handler and reports no result, whatever is done to the loop;
after the next run it is cancelled and finished, and says so once. If it was stopped before its
first turn, it never calls the service. A task that has ended cannot be stopped, and nothing
changes. -/
theorem cancel_final (service : Service) (setups : List Setup) (ss : List Step) (i : Nat)
    (args : List Argument) (hi : i < setups.length) (h : Accepted service setups ss i args) :
    (∀ o, (after service setups ss).outcome? i = some o →
      (after service setups ss).cancel i = (after service setups ss, false)) ∧
    ((after service setups ss).outcome? i = none →
      ((after service setups ss).cancel i).2 = true ∧
      ∀ rest, Stopped (after service setups ss) (after service setups (ss ++ .cancel i :: rest)) i
        setups[i].kind.name rest) ∧
    ∀ before between, ss = before ++ .execute i args :: between → .run ∉ between →
      ((after service setups before).execute i args).2 = .ok () →
      ∀ rest, ∀ e ∈ (after service setups (ss ++ .cancel i :: rest)).own i,
        e.deed.isAsk = false := by
  have sound := after_sound service setups ss
  obtain ⟨t, ht, setup, hu, -⟩ := h.underway hi
  refine ⟨fun o ho => ?_, fun ho => ?_, ?_⟩
  · rw [outcome?_some ht] at ho
    refine cancel_still ht ?_
    unfold Task.outcome? at ho
    split at ho
    · next hs => rw [hs]; trivial
    · cases ho
  · rw [outcome?_some ht] at ho
    refine ⟨(cancel_underway ht hu ho).1, fun rest => ?_⟩
    rw [← setup, after_append]
    exact sound.stopped ht hu ho rest
  · rintro before between rfl hrun hok rest
    exact no_ask_before_turn hi hrun hok rest

/-- A task that waits is stopped before its gate is opened. -/
theorem loading_stopped :
    Stopped (after gatedService [loading] [.execute 0 [.text "1"], .run])
      (after gatedService [loading]
        [.execute 0 [.text "1"], .run, .cancel 0, .release "gate", .run]) 0 "LoadPostTask"
      [.release "gate", .run] := by
  have accepted : Accepted gatedService [loading] [.execute 0 [.text "1"], .run] 0 [.text "1"] :=
    ⟨[], [.run], rfl, rfl⟩
  obtain ⟨-, stops, -⟩ := cancel_final gatedService [loading] _ 0 _ Nat.one_pos accepted
  exact (stops rfl).2 [.release "gate", .run]

end Loop

end BlogConsole
