import BlogConsole.Proofs.Task.Life
import BlogConsole.Proofs.Task.Stages
import Mathlib.Data.List.Nodup

/-!
What the steps of the loop do to one task: to the task itself and to its own entries.

Executing, stopping and settling touch one task, and so does a turn, whatever service it finds. A
run gives every task of the queue one turn, and settles it after the turns of the others.
-/

namespace BlogConsole.Loop

variable {l l' : Loop} {i j : Nat} {t : Task}

def own (l : Loop) (i : Nat) : List Entry := (l.record.filter (·.1 = i)).map (·.2)

def status (l : Loop) (i : Nat) : Status := ((l.task? i).map (·.status)).getD .pending

def outcome? (l : Loop) (i : Nat) : Option Outcome := (l.task? i).bind (·.outcome?)

lemma status_some (h : l.task? i = some t) : l.status i = t.status := by
  rw [status, h, Option.map_some, Option.getD_some]

lemma outcome?_some (h : l.task? i = some t) : l.outcome? i = t.outcome? := by
  rw [outcome?, h, Option.bind_some]

/-! ### Parts of the loop -/

lemma task?_congr (h : l'.tasks = l.tasks) : l'.task? i = l.task? i := by rw [task?, h, task?]

lemma isOpen_congr (h : l'.released = l.released) : l'.isOpen = l.isOpen := by
  funext gate
  rw [isOpen, h, isOpen]

lemma own_congr (h : l'.record = l.record) : l'.own i = l.own i := by rw [own, h, own]

lemma task?_setTask_self (u : Task) (h : l.task? i = some t) :
    (l.setTask i u).task? i = some u := by
  have hi : i < l.tasks.length := (List.getElem?_eq_some_iff.mp h).1
  unfold task? setTask
  rw [List.getElem?_set_self hi]

lemma task?_setTask_of_ne (u : Task) (h : i ≠ j) : (l.setTask i u).task? j = l.task? j :=
  List.getElem?_set_ne h

lemma own_log_self (es : List Entry) : (l.log i es).own i = l.own i ++ es := by
  have mine : (es.map fun e => (i, e)).filter (·.1 = i) = es.map fun e => (i, e) :=
    List.filter_eq_self.mpr (by simp)
  unfold own log
  rw [List.filter_append, List.map_append, mine, List.map_map]
  exact congrArg _ (List.map_id es)

lemma own_log_of_ne (es : List Entry) (h : i ≠ j) : (l.log i es).own j = l.own j := by
  have theirs : (es.map fun e => (i, e)).filter (·.1 = j) = [] :=
    List.filter_eq_nil_iff.mpr (by simp [h])
  unfold own log
  rw [List.filter_append, theirs, List.append_nil]

lemma enlist_same (l : Loop) (i : Nat) (stage : Stage) :
    (l.enlist i stage).tasks = l.tasks ∧ (l.enlist i stage).record = l.record ∧
      (l.enlist i stage).released = l.released ∧ (l.enlist i stage).service = l.service ∧
      (l.enlist i stage).queue = l.queue := by
  unfold enlist
  split <;> exact ⟨rfl, rfl, rfl, rfl, rfl⟩

/-- The loop with what a turn came to, before it notes whether the task waits. -/
def taking (l : Loop) (i : Nat) (p : Task.Progress) : Loop :=
  { (l.setTask i p.task).log i p.record with service := p.service }

/-! ### One turn -/

lemma proceed_none (h : l.task? i = none) : l.proceed i = l := by
  unfold proceed
  rw [h]

lemma proceed_some (h : l.task? i = some t) :
    l.proceed i = (l.taking i (t.turn i l.isOpen l.service)).enlist i
      (t.turn i l.isOpen l.service).task.stage := by
  unfold proceed
  rw [h]
  rfl

lemma proceed_self (h : l.task? i = some t) :
    (l.proceed i).task? i = some (t.turn i l.isOpen l.service).task ∧
      (l.proceed i).own i = l.own i ++ (t.turn i l.isOpen l.service).record ∧
      (l.proceed i).service = (t.turn i l.isOpen l.service).service := by
  rw [proceed_some h]
  obtain ⟨tasks, record, -, service, -⟩ :=
    enlist_same (l.taking i (t.turn i l.isOpen l.service)) i
      (t.turn i l.isOpen l.service).task.stage
  exact ⟨(task?_congr tasks).trans (task?_setTask_self _ h),
    (own_congr record).trans (own_log_self _), service⟩

lemma proceed_waiters (h : l.task? i = some t) :
    (l.proceed i).waiters =
      match (t.turn i l.isOpen l.service).task.stage with
      | .waiting .. => l.waiters ++ [i]
      | _ => l.waiters := by
  rw [proceed_some h]
  generalize (t.turn i l.isOpen l.service).task.stage = stage
  cases stage <;> rfl

lemma proceed_of_ne (h : i ≠ j) :
    (l.proceed i).task? j = l.task? j ∧ (l.proceed i).own j = l.own j := by
  cases ht : l.task? i with
  | none => rw [proceed_none ht]; exact ⟨rfl, rfl⟩
  | some t =>
    rw [proceed_some ht]
    obtain ⟨tasks, record, -⟩ :=
      enlist_same (l.taking i (t.turn i l.isOpen l.service)) i
        (t.turn i l.isOpen l.service).task.stage
    exact ⟨(task?_congr tasks).trans (task?_setTask_of_ne _ h),
      (own_congr record).trans (own_log_of_ne _ h)⟩

lemma proceed_same : (l.proceed i).released = l.released ∧ (l.proceed i).queue = l.queue := by
  cases ht : l.task? i with
  | none => rw [proceed_none ht]; exact ⟨rfl, rfl⟩
  | some t =>
    rw [proceed_some ht]
    obtain ⟨-, -, released, -, queue⟩ :=
      enlist_same (l.taking i (t.turn i l.isOpen l.service)) i
        (t.turn i l.isOpen l.service).task.stage
    exact ⟨released, queue⟩

/-! ### A run -/

variable {is : List Nat}

/-- Nothing but the task of its number is changed. -/
def Local (f : Loop → Nat → Loop) : Prop :=
  ∀ (l : Loop) (i j : Nat), i ≠ j → (f l i).task? j = l.task? j ∧ (f l i).own j = l.own j

lemma proceed_local : Local proceed := fun _ _ _ => proceed_of_ne

lemma settle_local : Local settle := by
  intro l i j h
  unfold settle
  split
  · exact ⟨rfl, rfl⟩
  · exact ⟨task?_setTask_of_ne _ h, own_log_of_ne _ h⟩

lemma settle_self (h : l.task? i = some t) :
    (l.settle i).task? i = some t.settled ∧ (l.settle i).own i = l.own i ++ t.settlement := by
  unfold settle
  rw [h]
  exact ⟨task?_setTask_self _ h, own_log_self _⟩

lemma settle_same : (l.settle i).released = l.released ∧ (l.settle i).queue = l.queue := by
  unfold settle
  split <;> exact ⟨rfl, rfl⟩

lemma Local.foldl_of_notMem {f : Loop → Nat → Loop} (hf : Local f) (h : j ∉ is) (l : Loop) :
    (is.foldl f l).task? j = l.task? j ∧ (is.foldl f l).own j = l.own j := by
  induction is generalizing l with
  | nil => exact ⟨rfl, rfl⟩
  | cons i is ih =>
    rw [List.mem_cons, not_or] at h
    obtain ⟨task, own⟩ := hf l i j (Ne.symm h.1)
    obtain ⟨task', own'⟩ := ih h.2 (f l i)
    exact ⟨task'.trans task, own'.trans own⟩

/-- A task is changed once, in a loop that has the same gates and has left the task alone. -/
lemma Local.foldl_of_mem {f : Loop → Nat → Loop} (hf : Local f)
    (hs : ∀ (l : Loop) (i : Nat), (f l i).released = l.released ∧ (f l i).queue = l.queue)
    (his : is.Nodup) (hj : j ∈ is) (l : Loop) :
    ∃ l' : Loop, l'.task? j = l.task? j ∧ l'.own j = l.own j ∧ l'.released = l.released ∧
      (is.foldl f l).task? j = (f l' j).task? j ∧ (is.foldl f l).own j = (f l' j).own j := by
  induction is generalizing l with
  | nil => cases hj
  | cons i is ih =>
    rw [List.nodup_cons] at his
    rcases List.mem_cons.mp hj with rfl | hj
    · obtain ⟨task, own⟩ := hf.foldl_of_notMem his.1 (f l j)
      exact ⟨l, rfl, rfl, rfl, task, own⟩
    · have hij : i ≠ j := fun hij => his.1 (hij ▸ hj)
      obtain ⟨task, own⟩ := hf l i j hij
      obtain ⟨l', task', own', released, after⟩ := ih his.2 hj (f l i)
      exact ⟨l', task'.trans task, own'.trans own, released.trans (hs l i).1, after⟩

/-- A task has its turn on some service: the one that the turns before it leave. -/
lemma turns_of_mem (his : is.Nodup) (hj : j ∈ is) (h : l.task? j = some t) :
    ∃ s, (is.foldl proceed l).task? j = some (t.turn j l.isOpen s).task ∧
      (is.foldl proceed l).own j = l.own j ++ (t.turn j l.isOpen s).record := by
  obtain ⟨l', same, before, released, task, own⟩ :=
    proceed_local.foldl_of_mem (fun _ _ => proceed_same) his hj l
  obtain ⟨task', own', -⟩ := proceed_self (same.trans h)
  rw [isOpen_congr released] at task' own'
  rw [before] at own'
  exact ⟨l'.service, task.trans task', own.trans own'⟩

lemma settlements_of_mem (his : is.Nodup) (hj : j ∈ is) (h : l.task? j = some t) :
    (is.foldl settle l).task? j = some t.settled ∧
      (is.foldl settle l).own j = l.own j ++ t.settlement := by
  obtain ⟨l', same, before, -, task, own⟩ :=
    settle_local.foldl_of_mem (fun _ _ => settle_same) his hj l
  obtain ⟨task', own'⟩ := settle_self (same.trans h)
  rw [before] at own'
  exact ⟨task.trans task', own.trans own'⟩

lemma run_of_notMem (h : j ∉ l.queue) : l.run.task? j = l.task? j ∧ l.run.own j = l.own j := by
  obtain ⟨task, own⟩ := proceed_local.foldl_of_notMem h { l with queue := [] }
  obtain ⟨task', own'⟩ :=
    settle_local.foldl_of_notMem h (l.queue.foldl proceed { l with queue := [] })
  exact ⟨task'.trans task, own'.trans own⟩

lemma run_of_mem (hq : l.queue.Nodup) (hj : j ∈ l.queue) (h : l.task? j = some t) :
    ∃ s, l.run.task? j = some (t.turn j l.isOpen s).task.settled ∧
      l.run.own j = l.own j ++ (t.turn j l.isOpen s).record ++
        (t.turn j l.isOpen s).task.settlement := by
  obtain ⟨s, task, own⟩ := turns_of_mem (l := { l with queue := [] }) hq hj h
  obtain ⟨task', own'⟩ := settlements_of_mem hq hj task
  rw [own] at own'
  exact ⟨s, task', own'⟩

lemma foldl_same {f : Loop → Nat → Loop}
    (hf : ∀ (l : Loop) (i : Nat), (f l i).released = l.released ∧ (f l i).queue = l.queue)
    (is : List Nat) (l : Loop) :
    (is.foldl f l).released = l.released ∧ (is.foldl f l).queue = l.queue := by
  induction is generalizing l with
  | nil => exact ⟨rfl, rfl⟩
  | cons i is ih =>
    obtain ⟨released, queue⟩ := ih (f l i)
    exact ⟨released.trans (hf l i).1, queue.trans (hf l i).2⟩

lemma run_same : l.run.released = l.released ∧ l.run.queue = [] := by
  obtain ⟨released, queue⟩ := foldl_same (fun _ _ => proceed_same) l.queue { l with queue := [] }
  obtain ⟨released', queue'⟩ := foldl_same (fun _ _ => settle_same) l.queue
    (l.queue.foldl proceed { l with queue := [] })
  exact ⟨released'.trans released, queue'.trans queue⟩

/-! ### The other steps -/

lemma execute_none (h : l.task? i = none) (args : List Argument) :
    l.execute i args = (l, .ok ()) := by
  unfold execute
  rw [h]

lemma execute_refused (h : l.task? i = some t) (args : List Argument) {f : Failure}
    (hf : t.refusal? = some f) : l.execute i args = (l, .error f) := by
  unfold execute
  rw [h]
  dsimp only
  rw [hf]

/-- The loop with what the launch of a task came to, before it is queued. -/
def launching (l : Loop) (i : Nat) (p : Task.Launch) : Loop :=
  (l.setTask i p.task).log i p.record

lemma execute_fails (h : l.task? i = some t) (args : List Argument) (hp : t.status = .pending)
    {f : Failure} (hf : t.callbacks.onStart.failure = some f) :
    l.execute i args = (l.launching i (t.launch i args), .error f) := by
  unfold execute
  rw [h]
  dsimp only
  rw [Task.refusal?, if_pos hp]
  dsimp only
  rw [Task.launch_failure, hf]
  rfl

lemma execute_starts (h : l.task? i = some t) (args : List Argument) (hp : t.status = .pending)
    (hf : t.callbacks.onStart.failure = none) :
    l.execute i args =
      ({ l.launching i (t.launch i args) with queue := l.queue ++ [i] }, .ok ()) := by
  unfold execute
  rw [h]
  dsimp only
  rw [Task.refusal?, if_pos hp]
  dsimp only
  rw [Task.launch_failure, hf]
  rfl

lemma execute_of_ne (h : i ≠ j) (args : List Argument) :
    (l.execute i args).1.task? j = l.task? j ∧ (l.execute i args).1.own j = l.own j := by
  unfold execute
  split
  · exact ⟨rfl, rfl⟩
  · split
    · exact ⟨rfl, rfl⟩
    · dsimp only
      split <;> exact ⟨task?_setTask_of_ne _ h, own_log_of_ne _ h⟩

lemma execute_self (h : l.task? i = some t) (args : List Argument) (hp : t.status = .pending) :
    (l.execute i args).1.task? i = some (t.launch i args).task ∧
      (l.execute i args).1.own i = l.own i ++ (t.launch i args).record := by
  have launched := task?_setTask_self (t.launch i args).task h
  cases hf : t.callbacks.onStart.failure with
  | some f => rw [execute_fails h args hp hf]; exact ⟨launched, own_log_self _⟩
  | none => rw [execute_starts h args hp hf]; exact ⟨launched, own_log_self _⟩

lemma task?_release (gate : String) : (l.release gate).task? i = (l.task? i).map (·.freed gate) :=
  List.getElem?_map

lemma isOpen_release (gate g : String) :
    (l.release gate).isOpen g = true ↔ l.isOpen g = true ∨ g = gate := by
  unfold release isOpen
  dsimp only
  split
  · next h =>
    refine ⟨.inl, ?_⟩
    rintro (hg | rfl)
    · exact hg
    · exact h
  · simp

lemma cancel_none (h : l.task? i = none) : l.cancel i = (l, false) := by
  unfold cancel
  rw [h]

lemma cancel_ready (h : l.task? i = some t) {begun : Bool} {w : Work}
    (hs : t.stage = .ready begun w) : l.cancel i = (l.setTask i t.stop, true) := by
  unfold cancel
  rw [h]
  dsimp only
  rw [hs]

lemma cancel_waiting (h : l.task? i = some t) {gate : String} {w : Work}
    (hs : t.stage = .waiting gate w) :
    l.cancel i =
      ({ l.setTask i t.stop with
          queue := l.queue ++ [i]
          waiters := l.waiters.filter (· ≠ i) }, true) := by
  unfold cancel
  rw [h]
  dsimp only
  rw [hs]

/-- A task that is neither ready nor waits is not stopped. -/
lemma cancel_still (h : l.task? i = some t) (hs : t.stage.Still) : l.cancel i = (l, false) := by
  unfold cancel
  rw [h]
  dsimp only
  cases hstage : t.stage with
  | ready | waiting => rw [hstage] at hs; cases hs
  | idle | abandoned | ended => rfl

lemma cancel_of_ne (h : i ≠ j) :
    (l.cancel i).1.task? j = l.task? j ∧ (l.cancel i).1.own j = l.own j := by
  unfold cancel
  split
  · exact ⟨rfl, rfl⟩
  · split
    · exact ⟨task?_setTask_of_ne _ h, rfl⟩
    · exact ⟨task?_setTask_of_ne _ h, rfl⟩
    · exact ⟨rfl, rfl⟩

lemma cancel_self (h : l.task? i = some t) :
    (l.cancel i).1.task? i = some t.stop ∧ (l.cancel i).1.own i = l.own i := by
  have stopped := task?_setTask_self t.stop h
  cases hs : t.stage with
  | ready begun w => rw [cancel_ready h hs]; exact ⟨stopped, rfl⟩
  | waiting gate w => rw [cancel_waiting h hs]; exact ⟨stopped, rfl⟩
  | idle | abandoned | ended =>
    rw [cancel_still h (by rw [hs]; trivial), Task.stop, hs]
    exact ⟨h, rfl⟩

end BlogConsole.Loop
