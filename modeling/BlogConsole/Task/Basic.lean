import BlogConsole.Task.Record
import BlogConsole.Task.Work

/-!
Tasks, and what each of them does when the loop turns to it.

A task is told how to report: on a console, or through callbacks, which may also fail or try to
execute the task again. Two kinds of callbacks and handlers are left out: those that cancel their
own task while it runs, and those that fail with a signal that the loop takes for its own, the end
of an iteration or a cancellation. So whatever a callback fails with is the failure of its task.

Its stage says how far it came. Its status is what it tells others; it is set when the task is
executed, when its work ends, and once more when the loop settles the task.
-/

namespace BlogConsole

/-- What a callback does once it was told: it executes its task again a number of times, and then it
returns or fails. It does not cancel its task, and what it fails with is no signal to the loop. -/
structure Reaction where
  executions : Nat
  failure : Option Failure

namespace Reaction

def nothing : Reaction := ⟨0, none⟩

def raises (f : Failure) : Reaction := ⟨0, some f⟩

def reexecutes : Reaction := ⟨1, none⟩

end Reaction

/-- How a task reports its start and its completion. -/
inductive Callbacks
  | console
  | custom (start : Reaction) (complete : Result → Reaction)

namespace Callbacks

def onStart : Callbacks → Reaction
  | console => .nothing
  | custom start _ => start

def onComplete : Callbacks → Result → Reaction
  | console, _ => .nothing
  | custom _ complete, r => complete r

def startEvent (c : Callbacks) (i : Nat) (message : String) (status : Status) : Event :=
  match c with
  | console => .output (Display.fresh.start message).2
  | custom .. => .started i message status

def completeEvent (c : Callbacks) (i : Nat) (r : Result) (status : Status) : Event :=
  match c with
  | console => .output (Display.fresh.complete (.result r)).2
  | custom .. => .completed i r status

end Callbacks

/-- What a task for creating a post does with an error of the service: nothing, hand it to a handler
that returns or fails, or report it on the console. Like a callback, a handler does not cancel the
task, and what it fails with is no signal to the loop. -/
inductive Handler
  | none
  | custom (react : ApiError → Option Failure)
  | reports

inductive Outcome
  | result (result : Result)
  | failure (failure : Failure)
  | cancelled

/-- How far a task came. A task whose start callback failed is abandoned: nothing will ever run. A
ready task has its next turn coming, which is its first one unless it has begun. A waiting task goes
on when its gate is open. -/
inductive Stage
  | idle
  | abandoned
  | ready (begun : Bool) (work : Work)
  | waiting (gate : String) (work : Work)
  | ended (outcome : Outcome)

structure Setup where
  kind : Kind
  blog : Option String
  handler : Handler
  callbacks : Callbacks

/-- A task. It keeps whether it was asked to stop. -/
structure Task extends Setup where
  status : Status
  stage : Stage
  stopped : Bool

namespace Task

def ofSetup (u : Setup) : Task := ⟨u, .pending, .idle, false⟩

def new (kind : Kind) (blog : Option String) (handler : Handler) (callbacks : Callbacks) : Task :=
  ofSetup ⟨kind, blog, handler, callbacks⟩

def outcome? (t : Task) : Option Outcome :=
  match t.stage with
  | .ended o => some o
  | _ => none

def inStatus (t : Task) (status : Status) : Task := { t with status := status }

def atStage (t : Task) (stage : Stage) : Task := { t with stage := stage }

/-! ### Reports -/

def did (t : Task) (deed : Deed) (events : List Event) : Entry := ⟨t.status, deed, events⟩

def noted (t : Task) (n : Notice) : Entry := t.did (.note n) [.notice n]

/-- Why a task cannot be executed. A task can be executed once. -/
def refusal? (t : Task) : Option Failure :=
  if t.status = .pending then none else some (.alreadyExecuted t.status)

/-- The callbacks of task number `i` execute it again. They are called after it was executed, so it
is refused. -/
def again (t : Task) (i : Nat) : List Entry :=
  match t.refusal? with
  | some f => [t.did (.refused f) [.refused i f]]
  | none => []

/-- What a callback of task number `i` does to it. -/
def react (t : Task) (i : Nat) (r : Reaction) : List Entry :=
  (List.replicate r.executions (t.again i)).flatten

def reportStart (t : Task) (i : Nat) : List Entry :=
  t.did (.start t.kind.progress) [t.callbacks.startEvent i t.kind.progress t.status] ::
    t.react i t.callbacks.onStart

def reportResult (t : Task) (i : Nat) (r : Result) : List Entry :=
  t.did (.complete r) [t.callbacks.completeEvent i r t.status] ::
    t.react i (t.callbacks.onComplete r)

/-- What task number `i` does when its work returns a result: it is finished and reports it. -/
def returning (t : Task) (i : Nat) (r : Result) : List Entry :=
  t.did (.returned r) [] :: (t.inStatus .finished).reportResult i r

/-- What a task does when its work fails: it notes the failure, and is finished then. -/
def raising (t : Task) (f : Failure) : List Entry :=
  [t.did (.raised f) [], t.noted (.taskFailed t.kind.name f)]

/-- How a task ends that reported its result: with it, or with the failure of the callback. -/
def outcomeOf (t : Task) (r : Result) : Outcome :=
  match (t.callbacks.onComplete r).failure with
  | none => .result r
  | some f => .failure f

def authorizationHint : String :=
  "Authorization failed; check BLOGGER_ACCESS_TOKEN has the blogger scope.\n"

/-- Hands an error to the handler of task number `i`. A handler that fails is noted. -/
def handle (t : Task) (i : Nat) (e : ApiError) : List Entry :=
  match t.handler with
  | .none => []
  | .custom react =>
    t.did (.handle e) [.handled i e] ::
      match react e with
      | none => []
      | some f => [t.noted (.handlerFailed f)]
  | .reports =>
    let hint :=
      if e.status.any Client.isAuthorizationStatus then [.output authorizationHint] else []
    [t.did (.handle e) hint]

/-! ### Work -/

/-- How far some work came: the service after it, the entries it made, and the task then. -/
structure Progress where
  service : Service
  record : List Entry
  task : Task

def Progress.after (record : List Entry) (p : Progress) : Progress :=
  { p with record := record ++ p.record }

def finish (t : Task) (o : Outcome) : Task := (t.inStatus .finished).atStage (.ended o)

/-- Does the work of task number `i` up to its end or to the next closed gate. -/
def advance (t : Task) (i : Nat) (isOpen : String → Bool) : Work → Service → Progress
  | .done r, s => ⟨s, t.returning i r, t.finish (t.outcomeOf r)⟩
  | .failed f, s => ⟨s, t.raising f, t.finish (.failure f)⟩
  | .note n next, s => (advance t i isOpen next s).after [t.noted n]
  | .handle e next, s => (advance t i isOpen next s).after (t.handle i e)
  | .ask c next, s =>
    let served := s.serve i t.blog c
    let asked := [t.did (.ask t.blog c served.reply) served.events]
    match served.gate with
    | some gate =>
      if isOpen gate then
        (advance t i isOpen (next served.reply) served.service).after asked
      else ⟨served.service, asked, t.atStage (.waiting gate (next served.reply))⟩
    | none => (advance t i isOpen (next served.reply) served.service).after asked

/-! ### What happens to a task -/

/-- What executing a task comes to: the entries of its start, the task then, and the failure of its
start. -/
structure Launch where
  record : List Entry
  task : Task
  failure : Option Failure

/-- Executes task number `i`: it is running, reports its start, and is ready for its first turn. If
the start fails the task is abandoned. -/
def launch (t : Task) (i : Nat) (args : List Argument) : Launch :=
  let running := t.inStatus .running
  let record := running.reportStart i
  match t.callbacks.onStart.failure with
  | some f => ⟨record, running.atStage .abandoned, some f⟩
  | none => ⟨record, running.atStage (.ready false (Work.ofKind t.blog t.kind args)), none⟩

def waitsAt (t : Task) (gate : String) : Bool :=
  match t.stage with
  | .waiting g _ => g = gate
  | _ => false

/-- A task after a gate was opened: if it waited there it is ready. -/
def freed (t : Task) (gate : String) : Task :=
  match t.stage with
  | .waiting g w => if g = gate then t.atStage (.ready true w) else t
  | _ => t

/-- A task that is asked to stop. If it waited it is ready, to end in its turn. -/
def stop (t : Task) : Task :=
  match t.stage with
  | .ready .. => { t with stopped := true }
  | .waiting _ w => { t.atStage (.ready true w) with stopped := true }
  | _ => t

/-- The turn of task number `i`. A stopped task proceeds no further. If it had begun, its work ends
there and it is finished; else its work never runs. -/
def turn (t : Task) (i : Nat) (isOpen : String → Bool) (s : Service) : Progress :=
  match t.stage with
  | .ready begun w =>
    if t.stopped then
      ⟨s, [], if begun then t.finish .cancelled else t.atStage (.ended .cancelled)⟩
    else t.advance i isOpen w s
  | _ => ⟨s, [], t⟩

/-- A task after the round in which it ended: it is finished in any case. -/
def settled (t : Task) : Task :=
  match t.stage with
  | .ended _ => t.inStatus .finished
  | _ => t

/-- What is noted when a task is settled: that it was cancelled, if so. -/
def settlement (t : Task) : List Entry :=
  match t.stage with
  | .ended .cancelled => [t.settled.noted (.taskCancelled t.kind.name)]
  | _ => []

end Task

end BlogConsole
