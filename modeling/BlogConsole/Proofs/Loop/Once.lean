import BlogConsole.Proofs.Loop.Accepted
import BlogConsole.Proofs.Task.Once

/-!
A task is executed once.

A further step that executes a task changes nothing. Executions that callbacks try while a task
starts or completes are inside of steps, so they are taken out of the whole loop: `once` commutes
with every step, and two loops whose tasks differ in such executions only are the same but for the
refusals.
-/

namespace BlogConsole.Loop

open Entry

/-- The loop without the executions that callbacks try, and without their refusals. -/
def once (l : Loop) : Loop :=
  { l with
    tasks := l.tasks.map Task.once
    record := l.record.filter fun p => !p.2.deed.isRefused }

variable {l : Loop} {i : Nat} {t : Task}

/-! ### Parts of the loop -/

lemma once_task? (l : Loop) (i : Nat) : l.once.task? i = (l.task? i).map Task.once :=
  List.getElem?_map

lemma once_setTask (l : Loop) (i : Nat) (t : Task) :
    (l.setTask i t).once = l.once.setTask i t.once :=
  congrArg (fun tasks => (⟨_, tasks, _, _, _, _⟩ : Loop)) List.map_set

lemma once_log (l : Loop) (i : Nat) (es : List Entry) :
    (l.log i es).once = l.once.log i (unrefused es) := by
  have record : (l.record ++ es.map fun e => (i, e)).filter (fun p => !p.2.deed.isRefused) =
      l.record.filter (fun p => !p.2.deed.isRefused) ++ (unrefused es).map fun e => (i, e) := by
    rw [List.filter_append, List.filter_map]
    rfl
  exact congrArg (fun record => (⟨_, _, _, _, _, record⟩ : Loop)) record

lemma once_own (l : Loop) (i : Nat) : l.once.own i = unrefused (l.own i) := by
  unfold own once unrefused
  rw [List.filter_map, List.filter_filter, List.filter_filter]
  simp only [Function.comp_def, Bool.and_comm]

lemma once_enlist (l : Loop) (i : Nat) (stage : Stage) :
    (l.enlist i stage).once = l.once.enlist i stage := by
  cases stage <;> rfl

lemma once_taking (l : Loop) (i : Nat) (p : Task.Progress) :
    (l.taking i p).once = l.once.taking i p.once := by
  have logged := once_log (l.setTask i p.task) i p.record
  rw [once_setTask] at logged
  exact congrArg (fun m : Loop => { m with service := p.service }) logged

/-! ### Steps -/

lemma once_proceed (l : Loop) (i : Nat) : (l.proceed i).once = l.once.proceed i := by
  cases ht : l.task? i with
  | none => rw [proceed_none ht, proceed_none (by rw [once_task?, ht]; rfl)]
  | some t =>
    have turn : t.once.turn i l.once.isOpen l.once.service =
        (t.turn i l.isOpen l.service).once := Task.once_turn i l.isOpen l.service
    rw [proceed_some ht, proceed_some (t := t.once) (by rw [once_task?, ht]; rfl), once_enlist,
      once_taking, turn]
    rfl

lemma once_settle (l : Loop) (i : Nat) : (l.settle i).once = l.once.settle i := by
  unfold settle
  rw [once_task?]
  cases l.task? i with
  | none => rfl
  | some t =>
    dsimp only [Option.map_some]
    rw [once_log, once_setTask, Task.once_settled, Task.once_settlement]

lemma once_foldl {f : Loop → Nat → Loop} (hf : ∀ l i, (f l i).once = f l.once i) (is : List Nat)
    (l : Loop) : (is.foldl f l).once = is.foldl f l.once := by
  induction is generalizing l with
  | nil => rfl
  | cons i is ih => rw [List.foldl_cons, ih, hf, List.foldl_cons]

lemma once_run (l : Loop) : l.run.once = l.once.run := by
  unfold run
  rw [once_foldl once_settle, once_foldl once_proceed]
  rfl

lemma once_execute (l : Loop) (i : Nat) (args : List Argument) :
    (l.execute i args).1.once = (l.once.execute i args).1 := by
  cases ht : l.task? i with
  | none => rw [execute_none ht, execute_none (by rw [once_task?, ht]; rfl)]
  | some t =>
    have ht' : l.once.task? i = some t.once := by rw [once_task?, ht]; rfl
    cases hr : t.refusal? with
    | some f => rw [execute_refused ht args hr, execute_refused ht' args hr]
    | none =>
      have hp := Task.pending_of_refusal? hr
      obtain ⟨record, task, failure⟩ := Task.once_launch (t := t) (i := i) args
      rw [Task.launch_failure, Task.launch_failure] at failure
      have launched : (l.launching i (t.launch i args)).once =
          l.once.launching i (t.once.launch i args) := by
        unfold launching
        rw [once_log, once_setTask, record, task]
      cases hf : t.callbacks.onStart.failure with
      | some f =>
        rw [execute_fails ht args hp hf, execute_fails ht' args hp (failure.trans hf)]
        exact launched
      | none =>
        rw [execute_starts ht args hp hf, execute_starts ht' args hp (failure.trans hf)]
        exact congrArg (fun m : Loop => { m with queue := l.queue ++ [i] }) launched

lemma once_release (l : Loop) (gate : String) : (l.release gate).once = l.once.release gate := by
  have tasks : (l.tasks.map (·.freed gate)).map Task.once =
      (l.tasks.map Task.once).map (·.freed gate) := by
    rw [List.map_map, List.map_map]
    exact List.map_congr_left fun t _ => Task.once_freed gate |>.symm
  have waits : l.once.waitsAt gate = l.waitsAt gate := by
    funext i
    rw [waitsAt, once_task?, Option.any_map]
    rfl
  unfold release
  rw [waits]
  exact congrArg (fun tasks => (⟨_, tasks, _, _, _, _⟩ : Loop)) tasks

lemma once_cancel (l : Loop) (i : Nat) : (l.cancel i).1.once = (l.once.cancel i).1 := by
  unfold cancel
  rw [once_task?]
  cases l.task? i with
  | none => rfl
  | some t =>
    have stage : t.once.stage = t.stage := rfl
    have set := once_setTask l i t.stop
    rw [← Task.once_stop] at set
    dsimp only [Option.map_some]
    rw [stage]
    cases t.stage with
    | ready => exact set
    | waiting =>
      exact congrArg (fun m : Loop =>
        { m with queue := l.queue ++ [i], waiters := l.waiters.filter (· ≠ i) }) set
    | idle | abandoned | ended => rfl

lemma once_step (l : Loop) (s : Step) : (l.step s).once = l.once.step s := by
  cases s with
  | execute i args => exact once_execute l i args
  | run => exact once_run l
  | release gate => exact once_release l gate
  | cancel i => exact once_cancel l i

lemma once_steps (l : Loop) (ss : List Step) : (l.steps ss).once = l.once.steps ss := by
  induction ss generalizing l with
  | nil => rfl
  | cons s ss ih => exact (ih (l.step s)).trans (congrArg (steps · ss) (once_step l s))

variable {service : Service} {setups : List Setup} {ss : List Step}

lemma once_after (service : Service) (setups : List Setup) (ss : List Step) :
    (after service setups ss).once = after service (setups.map Setup.once) ss := by
  have made : (setups.map Task.ofSetup).map Task.once =
      (setups.map Setup.once).map Task.ofSetup := by
    rw [List.map_map, List.map_map]
    rfl
  have new : (new service (setups.map Task.ofSetup)).once =
      new service ((setups.map Setup.once).map Task.ofSetup) := congrArg (Loop.new service) made
  exact (once_steps _ ss).trans (congrArg (steps · ss) new)

/-! ### One execution -/

/-- Two loops are the same but for refused executions. -/
structure Alike (l l' : Loop) : Prop where
  service : l'.service = l.service
  queue : l'.queue = l.queue
  waiters : l'.waiters = l.waiters
  released : l'.released = l.released
  status : ∀ j, l'.status j = l.status j
  stage : ∀ j, l'.stage? j = l.stage? j
  outcome : ∀ j, l'.outcome? j = l.outcome? j
  record : (l'.record.filter fun p => !p.2.deed.isRefused) =
    l.record.filter fun p => !p.2.deed.isRefused

lemma once_status (l : Loop) (i : Nat) : l.once.status i = l.status i := by
  rw [status, once_task?, status]
  cases l.task? i <;> rfl

lemma once_stage? (l : Loop) (i : Nat) : l.once.stage? i = l.stage? i := by
  rw [stage?, once_task?, stage?]
  cases l.task? i <;> rfl

lemma once_outcome? (l : Loop) (i : Nat) : l.once.outcome? i = l.outcome? i := by
  rw [outcome?, once_task?, outcome?]
  cases l.task? i <;> rfl

lemma alike_of_once {l l' : Loop} (h : l'.once = l.once) : Alike l l' := by
  constructor
  case service => exact (congrArg Loop.service h :)
  case queue => exact (congrArg Loop.queue h :)
  case waiters => exact (congrArg Loop.waiters h :)
  case released => exact (congrArg Loop.released h :)
  case record => exact (congrArg Loop.record h :)
  case status => exact fun j => by rw [← once_status, h, once_status]
  case stage => exact fun j => by rw [← once_stage?, h, once_stage?]
  case outcome => exact fun j => by rw [← once_outcome?, h, once_outcome?]

/-- An execution of the task is refused, with the status of the task, and changes nothing. -/
structure Refuses (l : Loop) (i : Nat) : Prop where
  refused : ∀ args, l.execute i args = (l, .error (.alreadyExecuted (l.status i)))
  message : (Failure.alreadyExecuted (l.status i)).message =
    "Cannot execute task: the task is already " ++ (l.status i).name

/-- The start of the task failed: it stays running, but no turn of it will ever come, and it has
done nothing but start. -/
structure Abandoned (l : Loop) (i : Nat) : Prop where
  running : l.status i = .running
  outcome : l.outcome? i = none
  unqueued : i ∉ l.queue
  unawaited : i ∉ l.waiters
  unstoppable : l.cancel i = (l, false)
  started : ∀ e ∈ l.own i, e.deed.isStart = true ∨ e.deed.isRefused = true

lemma refuses_of_executed (ht : l.task? i = some t) (hs : t.status ≠ .pending) :
    Refuses l i := by
  have refusal : t.refusal? = some (.alreadyExecuted (l.status i)) := by
    rw [status_some ht, Task.refusal?, if_neg hs]
  refine ⟨fun args => execute_refused ht args refusal, ?_⟩
  cases l.status i <;> rfl

variable {gates : String → Prop}

lemma Sound.abandoned (h : Sound gates l) (ht : l.task? i = some t) (hs : t.status ≠ .pending)
    {f : Failure} (hf : t.callbacks.onStart.failure = some f) : Abandoned l i := by
  obtain ⟨args, life⟩ := h.life i t ht
  generalize hown : l.own i = own at life
  cases life with
  | idle _ hp => exact absurd hp hs
  | ready _ _ hstart | waiting _ _ hstart | ended _ _ hstart => rw [hf] at hstart; cases hstart
  | abandoned hstage hr =>
    have still : t.stage.Still := by rw [hstage]; trivial
    obtain ⟨unqueued, unawaited⟩ := (h.kept.placed i).of_still (stage?_some ht) still
    refine ⟨(status_some ht).trans hr, ?_, unqueued, unawaited, cancel_still ht still, ?_⟩
    · rw [outcome?_some ht, Task.outcome?, hstage]
    · rw [hown]
      intro e he
      rcases List.mem_cons.mp he with rfl | he
      · exact .inl rfl
      · exact .inr (Task.mem_react he).2.1

/-- **A task is executed once.** A task that was executed, even one whose start failed, cannot be
executed again: the attempt is refused with its status, and everything goes on as without it. The
executions that callbacks try, at its start or at its completion, are refused as well, each right
behind the report whose callback tries it, and nothing else depends on them. A task whose start
failed was never ready and stays running. -/
theorem executed_once (service : Service) (setups : List Setup) (ss : List Step) (i : Nat)
    (hi : i < setups.length) (h : (after service setups ss).status i ≠ .pending) :
    Refuses (after service setups ss) i ∧
    (∀ args rest,
      after service setups (ss ++ .execute i args :: rest) = after service setups (ss ++ rest)) ∧
    (∀ setups', setups'.map Setup.once = setups.map Setup.once →
      Alike (after service setups ss) (after service setups' ss)) ∧
    (after service setups ss).own i =
      ((after service (setups.map Setup.once) ss).own i).flatMap (setups[i].refusing i) ∧
    ∀ f, setups[i].callbacks.onStart.failure = some f →
      Abandoned (after service setups ss) i ∧
      ∀ before args, (after service setups before).status i = .pending →
        ((after service setups before).execute i args).2 = .error f := by
  have sound := after_sound service setups ss
  obtain ⟨t, ht, setup⟩ := exists_task service ss hi
  rw [status_some ht] at h
  have refuses := refuses_of_executed ht h
  refine ⟨refuses, fun args rest => ?_, fun setups' hsame => ?_, ?_, fun f hf => ⟨?_, ?_⟩⟩
  · rw [after_append, after_append]
    exact congrArg (fun l : Loop × Except Failure Unit => l.1.steps rest) (refuses.refused args)
  · exact alike_of_once (by rw [once_after, once_after, hsame])
  · obtain ⟨args, life⟩ := sound.life i t ht
    rw [← once_after, once_own, ← setup]
    exact life.refusing
  · rw [← setup] at hf
    exact sound.abandoned ht h hf
  · intro before args hp
    obtain ⟨u, hu, setup'⟩ := exists_task service before hi
    rw [status_some hu] at hp
    rw [← setup'] at hf
    rw [execute_fails hu args hp hf]

/-- A task whose callbacks execute it again, at its start and at its completion. -/
def insistent : Setup := ⟨.load, none, .none, .custom .reexecutes fun _ => .reexecutes⟩

/-- A task whose start fails after its callback executed it again. -/
def unstartable : Setup :=
  ⟨.load, none, .none, .custom ⟨1, some (.thrown "ValueError" "start broke")⟩ fun _ => .nothing⟩

def failingService : Service :=
  .ofEntries [⟨none, fun c => c.fail (.api ⟨false, .string "gone", none, .null⟩ none)⟩]

/-- One task completed and the other one did not start. -/
theorem insistent_once :
    Refuses (after failingService [insistent, unstartable]
      [.execute 0 [.text "1"], .execute 1 [.text "1"], .run]) 0 ∧
    Alike (after failingService [insistent, unstartable]
        [.execute 0 [.text "1"], .execute 1 [.text "1"], .run])
      (after failingService [insistent.once, unstartable]
        [.execute 0 [.text "1"], .execute 1 [.text "1"], .run]) ∧
    Abandoned (after failingService [insistent, unstartable]
      [.execute 0 [.text "1"], .execute 1 [.text "1"], .run]) 1 := by
  have executed : ∀ i < 2, (after failingService [insistent, unstartable]
      [.execute 0 [.text "1"], .execute 1 [.text "1"], .run]).status i ≠ .pending := by
    decide +kernel
  obtain ⟨refuses, -, alike, -⟩ := executed_once failingService [insistent, unstartable]
    [.execute 0 [.text "1"], .execute 1 [.text "1"], .run] 0 (by decide) (executed 0 (by decide))
  obtain ⟨-, -, -, -, abandoned⟩ := executed_once failingService [insistent, unstartable]
    [.execute 0 [.text "1"], .execute 1 [.text "1"], .run] 1 (by decide) (executed 1 (by decide))
  exact ⟨refuses, alike [insistent.once, unstartable] rfl, (abandoned _ rfl).1⟩

end BlogConsole.Loop
