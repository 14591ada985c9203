import BlogConsole.Task.Basic

/-!
The loop that runs tasks on one service, one at a time.

Executing a task makes it ready. A run lets the ready tasks proceed in the order in which they
became ready, each up to its end or to a closed gate. Releasing a gate makes the tasks that wait at
it ready, and so does stopping a waiting task. A stopped task proceeds no further; it ends as
cancelled in its turn. The tasks that ended are settled after all have had their turns.
-/

namespace BlogConsole

/-- Tasks on one service. `queue` holds the numbers of the ready tasks and `waiters` those of the
waiting ones, in order; `released` are the open gates; `record` is all that was done, with the
number of the task that did it. -/
structure Loop where
  service : Service
  tasks : List Task
  queue : List Nat
  waiters : List Nat
  released : List String
  record : List (Nat × Entry)

namespace Loop

def new (service : Service) (tasks : List Task) : Loop := ⟨service, tasks, [], [], [], []⟩

def task? (l : Loop) (i : Nat) : Option Task := l.tasks[i]?

def setTask (l : Loop) (i : Nat) (t : Task) : Loop := { l with tasks := l.tasks.set i t }

def log (l : Loop) (i : Nat) (es : List Entry) : Loop :=
  { l with record := l.record ++ es.map fun e => (i, e) }

def events (l : Loop) : List Event := Entry.shown (l.record.map (·.2))

def isOpen (l : Loop) (gate : String) : Bool := l.released.contains gate

/-- Executes a task. A task can be executed once. -/
def execute (l : Loop) (i : Nat) (args : List Argument) : Loop × Except Failure Unit :=
  match l.task? i with
  | none => (l, .ok ())
  | some t =>
    match t.refusal? with
    | some f => (l, .error f)
    | none =>
      let launched := t.launch i args
      let l := (l.setTask i launched.task).log i launched.record
      match launched.failure with
      | some f => (l, .error f)
      | none => ({ l with queue := l.queue ++ [i] }, .ok ())

def waitsAt (l : Loop) (gate : String) (i : Nat) : Bool := (l.task? i).any (·.waitsAt gate)

/-- Opens a gate: the tasks that wait at it become ready, in the order of their waiting. -/
def release (l : Loop) (gate : String) : Loop :=
  { l with
    tasks := l.tasks.map (·.freed gate)
    queue := l.queue ++ l.waiters.filter (l.waitsAt gate)
    waiters := l.waiters.filter fun i => !l.waitsAt gate i
    released := if l.isOpen gate then l.released else l.released ++ [gate] }

/-- Stops a task. The answer is whether the task can still be stopped. -/
def cancel (l : Loop) (i : Nat) : Loop × Bool :=
  match l.task? i with
  | none => (l, false)
  | some t =>
    match t.stage with
    | .ready .. => (l.setTask i t.stop, true)
    | .waiting .. =>
      ({ l.setTask i t.stop with
          queue := l.queue ++ [i]
          waiters := l.waiters.filter (· ≠ i) },
        true)
    | _ => (l, false)

def enlist (l : Loop) (i : Nat) (stage : Stage) : Loop :=
  match stage with
  | .waiting .. => { l with waiters := l.waiters ++ [i] }
  | _ => l

/-- Lets a task have its turn. -/
def proceed (l : Loop) (i : Nat) : Loop :=
  match l.task? i with
  | none => l
  | some t =>
    let p := t.turn i l.isOpen l.service
    ({ (l.setTask i p.task).log i p.record with service := p.service }).enlist i p.task.stage

def settle (l : Loop) (i : Nat) : Loop :=
  match l.task? i with
  | none => l
  | some t => (l.setTask i t.settled).log i t.settlement

/-- Lets all ready tasks have their turns, in order, and settles them. -/
def run (l : Loop) : Loop :=
  l.queue.foldl settle (l.queue.foldl proceed { l with queue := [] })

/-! ### Runs -/

inductive Step
  | execute (task : Nat) (args : List Argument)
  | run
  | release (gate : String)
  | cancel (task : Nat)

def step (l : Loop) : Step → Loop
  | .execute i args => (l.execute i args).1
  | .run => l.run
  | .release gate => l.release gate
  | .cancel i => (l.cancel i).1

def steps (l : Loop) (ss : List Step) : Loop := ss.foldl step l

/-- The loop in which tasks were made, of which none was executed, after some steps. -/
def after (service : Service) (setups : List Setup) (ss : List Step) : Loop :=
  (new service (setups.map Task.ofSetup)).steps ss

end Loop

end BlogConsole
