import BlogConsole.Proofs.Loop.Accepted
import BlogConsole.Proofs.Task.Once

/-!
Tasks on a service that never makes them wait run one after the other.

On such a service a turn takes a task to its end. So the loop stays in step with another one in
which every task is executed only when its turn comes, and runs at once: `Serial` ties the two, and
every turn in the one is an execution and a run in the other. A task that was stopped has no turn in
the second loop, for it never calls the service in the first one.
-/

namespace BlogConsole

namespace Task

variable {t : Task} {i : Nat} {s : Service} {isOpen : String → Bool}

/-- Without gates it does not matter which ones are open. -/
lemma advance_ungated (hs : ∀ gate, ¬ s.Gated gate) (i : Nat) (isOpen isOpen' : String → Bool)
    (w : Work) : t.advance i isOpen w s = t.advance i isOpen' w s := by
  induction w generalizing s with
  | done r => rfl
  | failed f => rfl
  | note n next ih => exact congrArg (Progress.after _) (ih hs)
  | handle e next ih => exact congrArg (Progress.after _) (ih hs)
  | ask c next ih =>
    have goes := ih (s.serve i t.blog c).reply (s := (s.serve i t.blog c).service)
      fun gate h => hs gate h.of_serve
    unfold advance
    dsimp only
    cases hg : (s.serve i t.blog c).gate with
    | some gate => exact absurd (Service.gated_of_gate hg) (hs gate)
    | none => exact congrArg (Progress.after _) goes

lemma turn_ungated (hs : ∀ gate, ¬ s.Gated gate) (i : Nat) (isOpen isOpen' : String → Bool) :
    t.turn i isOpen s = t.turn i isOpen' s := by
  unfold turn
  split
  · rw [advance_ungated hs i isOpen isOpen']
  · rfl

lemma turn_ends (hs : ∀ gate, ¬ s.Gated gate) {begun : Bool} {w : Work}
    (hready : t.stage = .ready begun w) (hstop : t.stopped = false) (hr : t.status = .running)
    (i : Nat) (isOpen : String → Bool) :
    ∃ o, o ≠ .cancelled ∧ (t.turn i isOpen s).task = t.finish o := by
  obtain ⟨rests, -⟩ := turn_rests hready i isOpen s
  unfold turn at rests ⊢
  rw [hready] at rests ⊢
  dsimp only at rests ⊢
  rw [if_neg (by simp [hstop])] at rests ⊢
  have turned := advance_turned i isOpen hr w s
  generalize (t.advance i isOpen w s).record = es at turned
  generalize (t.advance i isOpen w s).task = t' at turned rests
  cases turned with
  | ends _ _ ho => exact ⟨_, ho, rfl⟩
  | waits =>
    obtain ⟨o, ended⟩ | ⟨gate, _, _, _, gated⟩ := rests
    · cases ended
    · exact absurd gated (hs gate)

lemma status_freed {gate : String} : (t.freed gate).status = t.status := by
  unfold freed
  split
  · split <;> rfl
  · rfl

lemma status_stop : t.stop.status = t.status := by
  unfold stop
  split <;> rfl

/-- Only a task that was not executed is pending afterwards. -/
lemma Moved.of_pending {t' : Task} {own es : List Entry} {args : List Argument} {s : Loop.Step}
    (h : Life t i args own) (hm : Moved t i s es t') (hp : t'.status = .pending) : t' = t := by
  cases hm with
  | same => rfl
  | launched args =>
    unfold launch at hp
    dsimp only at hp
    split at hp <;> cases hp
  | freed gate =>
    have idle := h.idle_of_pending (status_freed.symm.trans hp)
    rw [Task.freed, idle]
  | stopped =>
    have idle := h.idle_of_pending (status_stop.symm.trans hp)
    rw [stop, idle]
  | turned hs _ ht =>
    cases ht with
    | waits => cases (h.running_of_ready hs).symm.trans hp
    | ends => cases hp
  | cancelled => cases hp

end Task

/-- A task made of this that was executed, and is ready for its first turn. -/
def Setup.launched (u : Setup) (args : List Argument) : Task :=
  u.running.atStage (.ready false (Work.ofKind u.blog u.kind args))

lemma Setup.launch_eq {u : Setup} (hu : u.callbacks.onStart.failure = none) (i : Nat)
    (args : List Argument) :
    (Task.ofSetup u).launch i args = ⟨u.running.reportStart i, u.launched args, none⟩ := by
  have start : (Task.ofSetup u).callbacks.onStart.failure = none := hu
  rw [Task.launch, start]
  rfl

namespace Event

lemma requests_append (es fs : List Event) : requests (es ++ fs) = requests es ++ requests fs :=
  List.filterMap_append

end Event

lemma Setup.opening_requests (u : Setup) (i : Nat) :
    Event.requests (Entry.shown (u.running.reportStart i)) = [] := by
  have refusals (n : Nat) :
      Event.requests (Entry.shown (List.replicate n (Setup.refusal i .running))) = [] := by
    induction n with
    | zero => rfl
    | succ n ih => exact ih
  have start : Event.requests [u.callbacks.startEvent i u.kind.progress .running] = [] := by
    cases u.callbacks <;> rfl
  have executed : u.running.status ≠ .pending := by simp [Setup.running, Task.inStatus]
  have reaction := Task.react_eq (i := i) u.callbacks.onStart executed
  have opening : u.running.reportStart i = u.running.did (.start u.kind.progress)
      [u.callbacks.startEvent i u.kind.progress .running] ::
        List.replicate u.callbacks.onStart.executions (Setup.refusal i .running) :=
    congrArg (_ :: ·) reaction
  rw [opening, Entry.shown_cons, Event.requests_append, refusals, List.append_nil]
  exact start

namespace Outcome

def isCancelled : Outcome → Bool
  | cancelled => true
  | _ => false

lemma isCancelled_iff {o : Outcome} : o.isCancelled = true ↔ o = .cancelled := by
  cases o <;> simp [isCancelled]

end Outcome

namespace Loop

/-- An execution: the number of a task, and the arguments that it is given. -/
abbrev Execution : Type := Nat × List Argument

def accepts (l : Loop) : Step → List Execution
  | .execute i args =>
    match l.task? i, (l.execute i args).2 with
    | some _, .ok () => [(i, args)]
    | _, _ => []
  | _ => []

def executions (l : Loop) : List Step → List Execution
  | [] => []
  | s :: ss => l.accepts s ++ (l.step s).executions ss

def isCancelled (l : Loop) (i : Nat) : Bool := (l.outcome? i).any (·.isCancelled)

/-- The executions of tasks that were not cancelled. -/
def uncancelled (l : Loop) (es : List Execution) : List Execution :=
  es.filter fun p => !l.isCancelled p.1

def serial (es : List Execution) : List Step := es.flatMap fun p => [.execute p.1 p.2, .run]

variable {l l' m : Loop} {i : Nat} {t : Task}

lemma executions_append (l : Loop) (ss : List Step) (s : Step) :
    l.executions (ss ++ [s]) = l.executions ss ++ (l.steps ss).accepts s := by
  induction ss generalizing l with
  | nil => exact List.append_nil _
  | cons s' ss ih =>
    rw [List.cons_append, executions, ih, ← List.append_assoc]
    rfl

lemma serial_append (es : List Execution) (p : Execution) :
    serial (es ++ [p]) = serial es ++ [.execute p.1 p.2, .run] := by
  rw [serial, List.flatMap_append, List.flatMap_singleton, serial]

/-! ### Parts of the loop -/

lemma events_log (es : List Entry) : (l.log i es).events = l.events ++ Entry.shown es := by
  unfold events log
  rw [List.map_append, Entry.shown_append, List.map_map]
  exact congrArg (_ ++ Entry.shown ·) (List.map_id es)

lemma events_congr (h : l'.record = l.record) : l'.events = l.events := by
  rw [events, h, events]

lemma isCancelled_congr (h : l'.task? i = l.task? i) : l'.isCancelled i = l.isCancelled i := by
  rw [isCancelled, outcome?, h, isCancelled, outcome?]

lemma proceed_events (h : l.task? i = some t) :
    (l.proceed i).events =
      l.events ++ Entry.shown (t.turn i l.isOpen l.service).record := by
  rw [proceed_some h]
  obtain ⟨-, record, -⟩ :=
    enlist_same (l.taking i (t.turn i l.isOpen l.service)) i
      (t.turn i l.isOpen l.service).task.stage
  exact (events_congr record).trans (events_log _)

lemma settle_service (l : Loop) (i : Nat) : (l.settle i).service = l.service := by
  unfold settle
  split <;> rfl

lemma settle_events (h : l.task? i = some t) :
    (l.settle i).events = l.events ++ Entry.shown t.settlement := by
  unfold settle
  rw [h]
  exact events_log _

lemma run_one (hq : l.queue = [i]) (h : l.task? i = some t) :
    l.run.task? i = some (t.turn i l.isOpen l.service).task.settled ∧
      l.run.own i = l.own i ++ ((t.turn i l.isOpen l.service).record ++
        (t.turn i l.isOpen l.service).task.settlement) ∧
      l.run.events = l.events ++ Entry.shown ((t.turn i l.isOpen l.service).record ++
        (t.turn i l.isOpen l.service).task.settlement) ∧
      l.run.service = (t.turn i l.isOpen l.service).service := by
  have started : ({ l with queue := [] } : Loop).task? i = some t := h
  obtain ⟨task, own, service⟩ := proceed_self started
  obtain ⟨task', own'⟩ := settle_self task
  have events := proceed_events started
  have events' := settle_events task
  have run : l.run = (({ l with queue := [] } : Loop).proceed i).settle i := by
    rw [Loop.run, hq]
    rfl
  rw [run]
  refine ⟨task', ?_, ?_, (settle_service _ i).trans service⟩
  · rw [own', own, List.append_assoc]
    rfl
  · rw [events', events, Entry.shown_append, List.append_assoc]
    rfl

/-- A task that is executed and has its turn, when no other one is ready. -/
lemma execute_run_self {u : Setup} (hq : l.queue = []) (h : l.task? i = some (.ofSetup u))
    (hf : u.callbacks.onStart.failure = none) (args : List Argument) :
    (l.steps [.execute i args, .run]).task? i =
        some ((u.launched args).turn i l.isOpen l.service).task.settled ∧
      (l.steps [.execute i args, .run]).own i =
        l.own i ++ (u.running.reportStart i ++
          (((u.launched args).turn i l.isOpen l.service).record ++
            ((u.launched args).turn i l.isOpen l.service).task.settlement)) ∧
      (l.steps [.execute i args, .run]).events =
        l.events ++ (Entry.shown (u.running.reportStart i) ++
          Entry.shown (((u.launched args).turn i l.isOpen l.service).record ++
            ((u.launched args).turn i l.isOpen l.service).task.settlement)) ∧
      (l.steps [.execute i args, .run]).service =
        ((u.launched args).turn i l.isOpen l.service).service := by
  obtain ⟨task, own⟩ := execute_self h args rfl
  have launched : (l.execute i args).1 =
      { l.launching i ⟨u.running.reportStart i, u.launched args, none⟩ with queue := [i] } := by
    rw [execute_starts h args rfl hf, hq, Setup.launch_eq hf]
    rfl
  have events : (l.execute i args).1.events =
      l.events ++ Entry.shown (u.running.reportStart i) := by
    rw [launched]
    exact events_log _
  have same : (l.execute i args).1.isOpen = l.isOpen ∧
      (l.execute i args).1.service = l.service := by
    rw [launched]
    exact ⟨rfl, rfl⟩
  rw [Setup.launch_eq hf] at task own
  obtain ⟨task', own', events', service'⟩ := run_one (by rw [launched]) task
  rw [same.1, same.2] at task' own' events' service'
  rw [own, List.append_assoc] at own'
  rw [events, List.append_assoc] at events'
  exact ⟨task', own', events', service'⟩

lemma execute_run_of_ne (hq : l.queue = []) {j : Nat} (hj : i ≠ j) (args : List Argument) :
    (l.steps [.execute i args, .run]).task? j = l.task? j ∧
      (l.steps [.execute i args, .run]).own j = l.own j := by
  have turns : j ∉ (l.execute i args).1.queue := by
    unfold execute
    split
    · rw [hq]
      exact List.not_mem_nil
    · split
      · rw [hq]
        exact List.not_mem_nil
      · dsimp only
        split <;> simp [setTask, log, hq, Ne.symm hj]
  obtain ⟨task, own⟩ := execute_of_ne (l := l) hj args
  obtain ⟨task', own'⟩ := run_of_notMem turns
  exact ⟨task'.trans task, own'.trans own⟩

lemma Sound.steps_pending {gates : String → Prop} (h : Sound gates l) (ht : l.task? i = some t)
    {ss : List Step} {u : Task} (hu : (l.steps ss).task? i = some u) (hp : u.status = .pending) :
    u = t := by
  induction ss generalizing l t with
  | nil => exact Option.some.inj (hu.symm.trans ht)
  | cons s ss ih =>
    obtain ⟨es, t', moved, task, -⟩ := h.step_moved ht s
    obtain ⟨args, life⟩ := h.life i t ht
    have same := ih (h.step s) task hu
    rw [same]
    exact moved.of_pending life (same ▸ hp)

/-! ### One after the other -/

variable {setups : List Setup} {done waiting : List Execution} {p : Execution}

lemma ne_of_nodup {before later : List Execution} {q : Execution}
    (h : ((before ++ p :: later).map Prod.fst).Nodup) (hq : q ∈ before ∨ q ∈ later) :
    p.1 ≠ q.1 := by
  rw [List.map_append, List.map_cons, List.nodup_middle, List.nodup_cons, List.mem_append] at h
  exact fun same => h.1 (same ▸ hq.imp List.mem_map_of_mem List.mem_map_of_mem)

lemma notMem_of_nodup {before later : List Execution}
    (h : ((before ++ p :: later).map Prod.fst).Nodup) : p.1 ∉ before.map Prod.fst := by
  intro hp
  obtain ⟨q, hq, same⟩ := List.mem_map.mp hp
  exact ne_of_nodup h (.inl hq) same.symm

/-- One task after the other is executed and has its turn in `m`, when its turn comes in `l`: those
of `done` had it, but for the cancelled ones, and those of `waiting` have it next. -/
structure Serial (setups : List Setup) (l m : Loop) (done waiting : List Execution) : Prop where
  service : m.service = l.service
  requests : Event.requests m.events = Event.requests l.events
  queue : m.queue = []
  nodup : ((done ++ waiting).map Prod.fst).Nodup
  unexecuted : ∀ i ∉ done.map Prod.fst,
    m.task? i = setups[i]?.map Task.ofSetup ∧ m.own i = []
  ended : ∀ p ∈ done, ∃ t o, l.task? p.1 = some t ∧ t.stage = .ended o ∧
    (o ≠ .cancelled → t.status = .finished ∧ m.task? p.1 = some t ∧ m.own p.1 = l.own p.1) ∧
    (o = .cancelled → ∀ e ∈ l.own p.1, e.deed.isAsk = false)
  ready : ∀ p ∈ waiting, ∃ u b, setups[p.1]? = some u ∧ u.callbacks.onStart.failure = none ∧
    l.task? p.1 = some { u.launched p.2 with stopped := b } ∧
    l.own p.1 = u.running.reportStart p.1

namespace Serial

lemma congr (h : Serial setups l m done waiting)
    (same : ∀ p ∈ done ++ waiting, l'.task? p.1 = l.task? p.1 ∧ l'.own p.1 = l.own p.1)
    (service : l'.service = l.service)
    (requests : Event.requests l'.events = Event.requests l.events) :
    Serial setups l' m done waiting := by
  constructor
  case service => exact h.service.trans service.symm
  case requests => exact h.requests.trans requests.symm
  case queue => exact h.queue
  case nodup => exact h.nodup
  case unexecuted => exact h.unexecuted
  case ended =>
    intro p hp
    obtain ⟨task, own⟩ := same p (List.mem_append_left _ hp)
    rw [task, own]
    exact h.ended p hp
  case ready =>
    intro p hp
    obtain ⟨task, own⟩ := same p (List.mem_append_right _ hp)
    rw [task, own]
    exact h.ready p hp

lemma readied (h : Serial setups l m done waiting)
    (hp : p.1 ∉ (done ++ waiting).map Prod.fst)
    (ready : ∃ u b, setups[p.1]? = some u ∧ u.callbacks.onStart.failure = none ∧
      l.task? p.1 = some { u.launched p.2 with stopped := b } ∧
      l.own p.1 = u.running.reportStart p.1) :
    Serial setups l m done (waiting ++ [p]) := by
  constructor
  case service => exact h.service
  case requests => exact h.requests
  case queue => exact h.queue
  case nodup =>
    rw [← List.append_assoc, List.map_append]
    simpa using h.nodup.concat hp
  case unexecuted => exact h.unexecuted
  case ended => exact h.ended
  case ready => exact List.forall_mem_append.mpr ⟨h.ready, List.forall_mem_singleton.mpr ready⟩

lemma notMem_of_idle (h : Serial setups l m done waiting) (ht : l.task? i = some t)
    (hs : t.stage = .idle) : i ∉ (done ++ waiting).map Prod.fst := by
  intro hi
  obtain ⟨p, hp, rfl⟩ := List.mem_map.mp hi
  rcases List.mem_append.mp hp with hp | hp
  · obtain ⟨u, o, hu, ended, -⟩ := h.ended p hp
    rw [ht] at hu
    cases hu
    cases hs.symm.trans ended
  · obtain ⟨u, b, -, -, hu, -⟩ := h.ready p hp
    rw [ht] at hu
    cases hu
    cases hs

/-- What a turn in the one loop and the steps in the other one have to come to. -/
lemma proceed (h : Serial setups l m done (p :: waiting)) {m' : Loop}
    (service : m'.service = (l.proceed p.1).service)
    (requests : Event.requests m'.events = Event.requests (l.proceed p.1).events)
    (queue : m'.queue = [])
    (others : ∀ j, p.1 ≠ j → m'.task? j = m.task? j ∧ m'.own j = m.own j)
    (ended : ∃ t o, (l.proceed p.1).task? p.1 = some t ∧ t.stage = .ended o ∧
      (o ≠ .cancelled → t.status = .finished ∧ m'.task? p.1 = some t ∧
        m'.own p.1 = (l.proceed p.1).own p.1) ∧
      (o = .cancelled → ∀ e ∈ (l.proceed p.1).own p.1, e.deed.isAsk = false)) :
    Serial setups (l.proceed p.1) m' (done ++ [p]) waiting := by
  have ne {q : Execution} (hq : q ∈ done ∨ q ∈ waiting) : p.1 ≠ q.1 := ne_of_nodup h.nodup hq
  constructor
  case service => exact service
  case requests => exact requests
  case queue => exact queue
  case nodup =>
    rw [← List.append_cons]
    exact h.nodup
  case unexecuted =>
    intro j hj
    rw [List.map_append, List.mem_append, not_or] at hj
    obtain ⟨task, own⟩ := others j fun h => hj.2 (by simp [h])
    rw [task, own]
    exact h.unexecuted j hj.1
  case ended =>
    refine List.forall_mem_append.mpr ⟨fun q hq => ?_, List.forall_mem_singleton.mpr ended⟩
    obtain ⟨task, own⟩ := proceed_of_ne (l := l) (ne (.inl hq))
    obtain ⟨task', own'⟩ := others q.1 (ne (.inl hq))
    rw [task, own, task', own']
    exact h.ended q hq
  case ready =>
    intro q hq
    obtain ⟨task, own⟩ := proceed_of_ne (l := l) (ne (.inr hq))
    rw [task, own]
    exact h.ready q (List.mem_cons_of_mem _ hq)

/-- A cancelled task has its turn: nothing happens in the other loop. -/
lemma proceed_stopped (h : Serial setups l m done (p :: waiting)) {u : Setup}
    (ht : l.task? p.1 = some { u.launched p.2 with stopped := true })
    (hown : l.own p.1 = u.running.reportStart p.1) :
    Serial setups (l.proceed p.1) m (done ++ [p]) waiting ∧
      (l.proceed p.1).isCancelled p.1 = true := by
  obtain ⟨task, own, service⟩ := proceed_self ht
  have events := proceed_events ht
  refine ⟨h.proceed (h.service.trans service.symm) ?_ h.queue (fun _ _ => ⟨rfl, rfl⟩) ?_, ?_⟩
  · rw [h.requests, events]
    exact congrArg _ (List.append_nil _).symm
  · refine ⟨_, .cancelled, task, rfl, fun h => absurd rfl h, fun _ => ?_⟩
    rw [own, hown]
    exact List.forall_mem_append.mpr ⟨Task.reportStart_no_ask, List.forall_mem_nil _⟩
  · rw [isCancelled, outcome?, task]
    rfl

/-- A task has its turn: in the other loop it is executed and runs. -/
lemma proceed_started (h : Serial setups l m done (p :: waiting))
    (hs : ∀ gate, ¬ l.service.Gated gate) {u : Setup} (hu : setups[p.1]? = some u)
    (hf : u.callbacks.onStart.failure = none)
    (ht : l.task? p.1 = some (u.launched p.2))
    (hown : l.own p.1 = u.running.reportStart p.1) :
    Serial setups (l.proceed p.1) (m.steps [.execute p.1 p.2, .run]) (done ++ [p]) waiting ∧
      (l.proceed p.1).isCancelled p.1 = false := by
  have fresh : p.1 ∉ done.map Prod.fst := notMem_of_nodup h.nodup
  obtain ⟨idle, unseen⟩ := h.unexecuted p.1 fresh
  rw [hu, Option.map_some] at idle
  obtain ⟨task, own, service⟩ := proceed_self ht
  have events := proceed_events ht
  obtain ⟨o, ho, ended⟩ := Task.turn_ends hs (t := u.launched p.2) rfl rfl rfl p.1 l.isOpen
  -- the same turn is taken in the other loop
  obtain ⟨task', own', events', service'⟩ := execute_run_self h.queue idle hf p.2
  rw [h.service, Task.turn_ungated hs p.1 m.isOpen l.isOpen] at task' own' events' service'
  rw [ended] at task task' own' events'
  have settlement : (Task.finish (u.launched p.2) o).settlement = [] :=
    Task.settlement_of_ended rfl ho
  rw [settlement, List.append_nil] at own' events'
  refine ⟨h.proceed (service'.trans service.symm) ?_ run_same.2
    (fun j hj => execute_run_of_ne h.queue hj p.2) ?_, ?_⟩
  · rw [events', events, Event.requests_append, Event.requests_append, Event.requests_append,
      Setup.opening_requests, h.requests, List.nil_append]
  · refine ⟨_, o, task, rfl, fun _ => ⟨rfl, task', ?_⟩, fun h => absurd h ho⟩
    rw [own', own, hown, unseen, List.nil_append]
  · rw [isCancelled, outcome?, task]
    exact Bool.eq_false_iff.mpr fun h => ho (Outcome.isCancelled_iff.mp h)

end Serial

end Loop

end BlogConsole
