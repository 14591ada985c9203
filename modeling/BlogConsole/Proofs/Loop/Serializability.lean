import BlogConsole.Proofs.Listing.Snapshot
import BlogConsole.Proofs.Loop.Invariant
import BlogConsole.Proofs.Loop.Serial
import Mathlib

/-!
Whatever is done to tasks on a service that never makes them wait, comes to the same as to run those
that are not cancelled one after the other, in the order in which their execution was accepted.

Every step keeps a loop in step with the serial one. Since a task has all its calls in one turn, a
listing reads all its pages from the store as it was before that turn.
-/

namespace BlogConsole

namespace Loop

variable {l l' m : Loop} {i : Nat} {t : Task} {setups : List Setup} {service : Service}
  {done waiting : List Execution} {p : Execution}

lemma uncancelled_congr {es : List Execution}
    (h : ∀ p ∈ es, l'.task? p.1 = l.task? p.1) : l'.uncancelled es = l.uncancelled es :=
  List.filter_congr fun p hp => by rw [isCancelled_congr (h p hp)]

/-! ### Runs -/

lemma outcome?_settle (l : Loop) (i j : Nat) : (l.settle i).outcome? j = l.outcome? j := by
  cases ht : l.task? i with
  | none => rw [settle, ht]
  | some t =>
    by_cases h : i = j
    · subst h
      rw [outcome?_some (settle_self ht).1, outcome?_some ht, Task.outcome?, Task.settled_stage,
        Task.outcome?]
    · rw [outcome?, (settle_local l i j h).1, outcome?]

lemma uncancelled_settle (l : Loop) (i : Nat) (es : List Execution) :
    (l.settle i).uncancelled es = l.uncancelled es :=
  List.filter_congr fun p _ => by rw [isCancelled, outcome?_settle, isCancelled]

namespace Serial

lemma settle (h : Serial setups l m done []) (i : Nat) : Serial setups (l.settle i) m done [] := by
  cases ht : l.task? i with
  | none =>
    have same : l.settle i = l := by rw [Loop.settle, ht]
    rwa [same]
  | some t =>
    have noted : Event.requests (Entry.shown t.settlement) = [] := by
      unfold Task.settlement
      split <;> rfl
    obtain ⟨task, own⟩ := settle_self ht
    constructor
    case service => exact h.service.trans (settle_service l i).symm
    case requests =>
      rw [settle_events ht, Event.requests_append, noted, List.append_nil]
      exact h.requests
    case queue => exact h.queue
    case nodup => exact h.nodup
    case unexecuted => exact h.unexecuted
    case ready => exact List.forall_mem_nil _
    case ended =>
      intro p hp
      obtain ⟨u, o, hu, hs, same, silent⟩ := h.ended p hp
      by_cases hi : i = p.1
      · subst hi
        rw [ht] at hu
        cases hu
        refine ⟨t.settled, o, task, Task.settled_stage.trans hs, fun ho => ?_, fun ho => ?_⟩
        · obtain ⟨finished, task', own'⟩ := same ho
          have settled : t.settled = t := by
            rw [Task.settled, hs, ← finished]
            rfl
          rw [settled, own, Task.settlement_of_ended hs ho, List.append_nil]
          exact ⟨finished, task', own'⟩
        · rw [own, Task.settlement, hs, ho]
          exact List.forall_mem_append.mpr ⟨silent ho, List.forall_mem_singleton.mpr rfl⟩
      · obtain ⟨task', own'⟩ := settle_local l i p.1 hi
        rw [task', own']
        exact h.ended p hp

lemma settlements (h : Serial setups l m done []) (is : List Nat) :
    Serial setups (is.foldl Loop.settle l) m done [] ∧
      (is.foldl Loop.settle l).uncancelled done = l.uncancelled done := by
  induction is generalizing l with
  | nil => exact ⟨h, rfl⟩
  | cons i is ih =>
    obtain ⟨serial, same⟩ := ih (h.settle i)
    exact ⟨serial, same.trans (uncancelled_settle l i done)⟩

lemma turns (h : Serial setups l (after service setups (serial (l.uncancelled done))) done waiting)
    (hs : ∀ gate, ¬ l.service.Gated gate) :
    Serial setups ((waiting.map Prod.fst).foldl Loop.proceed l)
      (after service setups (serial
        (((waiting.map Prod.fst).foldl Loop.proceed l).uncancelled (done ++ waiting))))
      (done ++ waiting) [] := by
  induction waiting generalizing l done with
  | nil => rwa [List.append_nil]
  | cons p waiting ih =>
    obtain ⟨u, b, hu, hf, ht, hown⟩ := h.ready p List.mem_cons_self
    have hs' : ∀ gate, ¬ (l.proceed p.1).service.Gated gate := by
      intro gate hg
      rw [(proceed_self ht).2.2] at hg
      exact hs gate ((Task.turn_rests rfl p.1 l.isOpen l.service).2 gate hg)
    have kept : (l.proceed p.1).uncancelled done = l.uncancelled done :=
      uncancelled_congr fun q hq => (proceed_of_ne (ne_of_nodup h.nodup (.inl hq))).1
    have one : (l.proceed p.1).uncancelled (done ++ [p]) =
        l.uncancelled done ++ if (l.proceed p.1).isCancelled p.1 then [] else [p] := by
      rw [uncancelled, List.filter_append, ← uncancelled, kept]
      cases hc : (l.proceed p.1).isCancelled p.1 <;> simp [hc]
    rw [List.append_cons]
    refine ih ?_ hs'
    cases b with
    | true =>
      obtain ⟨serial, cancelled⟩ := h.proceed_stopped ht hown
      rw [one, if_pos cancelled, List.append_nil]
      exact serial
    | false =>
      obtain ⟨serial, uncancelled⟩ := h.proceed_started hs hu hf ht hown
      rw [one, if_neg (by simp [uncancelled]), serial_append, after_append]
      exact serial

end Serial

/-! ### Steps -/

/-- A loop is in step with the serial run of executions. -/
def InStep (service : Service) (setups : List Setup) (l : Loop) (es : List Execution) : Prop :=
  ∃ done waiting, es = done ++ waiting ∧ l.queue = waiting.map Prod.fst ∧
    Serial setups l (after service setups (serial (l.uncancelled done))) done waiting

lemma InStep.run {es : List Execution} (h : InStep service setups l es)
    (hs : ∀ gate, ¬ l.service.Gated gate) : InStep service setups l.run es := by
  obtain ⟨done, waiting, rfl, queue, serial⟩ := h
  have started : Serial setups { l with queue := [] }
      (after service setups (Loop.serial (l.uncancelled done))) done waiting :=
    serial.congr (fun _ _ => ⟨rfl, rfl⟩) rfl rfl
  have turned := started.turns hs
  obtain ⟨settled, same⟩ := turned.settlements (waiting.map Prod.fst)
  rw [← same] at settled
  refine ⟨done ++ waiting, [], (List.append_nil _).symm, run_same.2, ?_⟩
  rw [Loop.run, queue]
  exact settled

/-- What a step does that leaves the tasks alone which were executed. -/
lemma InStep.congr {es : List Execution} (h : InStep service setups l es)
    (queue : l'.queue = l.queue) (service' : l'.service = l.service)
    (requests : Event.requests l'.events = Event.requests l.events)
    (same : ∀ i, (∀ t, l.task? i = some t → t.stage ≠ .idle) →
      l'.task? i = l.task? i ∧ l'.own i = l.own i) :
    InStep service setups l' es := by
  obtain ⟨done, waiting, rfl, hq, serial⟩ := h
  have executed : ∀ p ∈ done ++ waiting, l'.task? p.1 = l.task? p.1 ∧ l'.own p.1 = l.own p.1 :=
    fun p hp => same p.1 fun t ht hidle =>
      serial.notMem_of_idle ht hidle (List.mem_map_of_mem hp)
  refine ⟨done, waiting, rfl, queue.trans hq, ?_⟩
  rw [uncancelled_congr fun p hp => (executed p (List.mem_append_left _ hp)).1]
  exact serial.congr executed service' requests

lemma accepts_none (h : l.task? i = none) (args : List Argument) :
    l.accepts (.execute i args) = [] := by
  rw [accepts, h]

lemma accepts_error {args : List Argument} {f : Failure} (h : (l.execute i args).2 = .error f) :
    l.accepts (.execute i args) = [] := by
  rw [accepts, h]
  cases l.task? i <;> rfl

lemma accepts_ok {args : List Argument} (ht : l.task? i = some t)
    (h : (l.execute i args).2 = .ok ()) : l.accepts (.execute i args) = [(i, args)] := by
  rw [accepts, ht, h]

lemma launching_requests (u : Setup) (i : Nat) {p : Task.Launch}
    (hp : p.record = u.running.reportStart i) :
    Event.requests (l.launching i p).events = Event.requests l.events := by
  have events : (l.launching i p).events = l.events ++ Entry.shown p.record := events_log _
  rw [events, hp, Event.requests_append, Setup.opening_requests, List.append_nil]

lemma InStep.fails {es : List Execution} (h : InStep service setups l es) {u : Setup}
    (ht : l.task? i = some (.ofSetup u)) {f : Failure} (hf : u.callbacks.onStart.failure = some f)
    (args : List Argument) : InStep service setups (l.execute i args).1 es := by
  have fails := execute_fails ht args rfl hf
  have record : ((Task.ofSetup u).launch i args).record = u.running.reportStart i := by
    unfold Task.launch
    dsimp only
    split <;> rfl
  refine h.congr ?_ ?_ ?_ fun j hj => execute_of_ne (fun hij => hj _ (hij ▸ ht) rfl) args
  · rw [fails]
    rfl
  · rw [fails]
    rfl
  · rw [fails]
    exact launching_requests u i record

/-- A task is executed and waits for its turn. -/
lemma InStep.starts {es : List Execution} (h : InStep service setups l es) {u : Setup}
    (hu : setups[i]? = some u) (ht : l.task? i = some (.ofSetup u)) (hown : l.own i = [])
    (hf : u.callbacks.onStart.failure = none) (args : List Argument) :
    InStep service setups (l.execute i args).1 (es ++ [(i, args)]) := by
  have starts := execute_starts ht args rfl hf
  obtain ⟨task, own⟩ := execute_self ht args rfl
  rw [Setup.launch_eq hf] at starts task own
  obtain ⟨done, waiting, rfl, queue, serial⟩ := h
  have absent := serial.notMem_of_idle ht rfl
  have same : ∀ p ∈ done ++ waiting, (l.execute i args).1.task? p.1 = l.task? p.1 ∧
      (l.execute i args).1.own p.1 = l.own p.1 := fun p hp =>
    execute_of_ne (fun hip : i = p.1 => absent (hip ▸ List.mem_map_of_mem hp)) args
  refine ⟨done, waiting ++ [(i, args)], List.append_assoc .., ?_, ?_⟩
  · rw [starts, List.map_append, ← queue]
    rfl
  · rw [uncancelled_congr fun p hp => (same p (List.mem_append_left _ hp)).1]
    refine (serial.congr same ?_ ?_).readied absent ⟨u, false, hu, hf, task, ?_⟩
    · rw [starts]
      rfl
    · rw [starts]
      exact launching_requests u i rfl
    · rw [own, hown]
      rfl

/-- A task is executed. If it is refused or its start fails, no execution was accepted. -/
lemma InStep.execute {es : List Execution} (h : InStep service setups l es)
    (hfresh : ∀ t, l.task? i = some t → t.status = .pending →
      ∃ u, setups[i]? = some u ∧ t = .ofSetup u ∧ l.own i = []) (args : List Argument) :
    InStep service setups (l.execute i args).1 (es ++ l.accepts (.execute i args)) := by
  cases ht : l.task? i with
  | none => rwa [accepts_none ht, List.append_nil, execute_none ht]
  | some t =>
    cases hr : t.refusal? with
    | some f =>
      have refused := execute_refused ht args hr
      rw [accepts_error (congrArg Prod.snd refused), List.append_nil, refused]
      exact h
    | none =>
      obtain ⟨u, hu, rfl, hown⟩ := hfresh t ht (Task.pending_of_refusal? hr)
      cases hf : u.callbacks.onStart.failure with
      | some f =>
        rw [accepts_error (congrArg Prod.snd (execute_fails ht args rfl hf)), List.append_nil]
        exact h.fails ht hf args
      | none =>
        rw [accepts_ok ht (congrArg Prod.snd (execute_starts ht args rfl hf))]
        exact h.starts hu ht hown hf args

lemma Sound.not_waiting {gates : String → Prop} (h : Sound gates l) (hs : ∀ gate, ¬ gates gate)
    (ht : l.task? i = some t) {gate : String} {w : Work} : t.stage ≠ .waiting gate w := by
  intro hw
  obtain ⟨-, -, -, gated⟩ := (h.kept.placed i).of_waiting ((stage?_some ht).trans (congrArg _ hw))
  exact hs gate gated

/-- Opening a gate that does not exist changes nothing for any task. -/
lemma InStep.release {es : List Execution} (h : InStep service setups l es)
    (hwait : ∀ i t gate w, l.task? i = some t → t.stage ≠ .waiting gate w) (gate : String) :
    InStep service setups (l.release gate) es := by
  have nobody : ∀ i, l.waitsAt gate i = false := by
    intro i
    rw [Bool.eq_false_iff]
    intro hi
    obtain ⟨w, hw⟩ := waitsAt_iff.mp hi
    obtain ⟨t, ht, hw⟩ := Option.map_eq_some_iff.mp hw
    exact hwait i t gate w ht hw
  have queue : (l.release gate).queue = l.queue := by
    simp [Loop.release, nobody]
  refine h.congr queue rfl rfl fun i _ => ⟨?_, rfl⟩
  rw [task?_release]
  cases ht : l.task? i with
  | none => rfl
  | some t =>
    have unmoved : t.freed gate = t := by
      unfold Task.freed
      split
      · next g w hw => exact absurd hw (hwait i t g w ht)
      · rfl
    rw [Option.map_some, unmoved]

/-- A task that waits for its turn may be stopped. -/
lemma InStep.cancel {es : List Execution} (h : InStep service setups l es)
    (hwait : ∀ i t gate w, l.task? i = some t → t.stage ≠ .waiting gate w) (i : Nat) :
    InStep service setups (l.cancel i).1 es := by
  cases ht : l.task? i with
  | none => rwa [cancel_none ht]
  | some t =>
    cases hstage : t.stage with
    | waiting gate w => exact absurd hstage (hwait i t gate w ht)
    | idle | abandoned | ended => rwa [cancel_still ht (by rw [hstage]; trivial)]
    | ready begun w =>
      obtain ⟨done, waiting, rfl, queue, serial⟩ := h
      have other (j : Nat) (hj : i ≠ j) := cancel_of_ne (l := l) hj
      have ended : ∀ p ∈ done, i ≠ p.1 := by
        rintro p hp rfl
        obtain ⟨u, o, hu, hs, -⟩ := serial.ended p hp
        rw [ht] at hu
        cases hu
        cases hstage.symm.trans hs
      rw [cancel_ready ht hstage] at other ⊢
      refine ⟨done, waiting, rfl, queue, ?_⟩
      rw [uncancelled_congr fun p hp => (other p.1 (ended p hp)).1]
      constructor
      case service => exact serial.service
      case requests => exact serial.requests
      case queue => exact serial.queue
      case nodup => exact serial.nodup
      case unexecuted => exact serial.unexecuted
      case ended =>
        intro p hp
        obtain ⟨task, own⟩ := other p.1 (ended p hp)
        rw [task, own]
        exact serial.ended p hp
      case ready =>
        intro p hp
        obtain ⟨u, b, hu, hf, hp', hown⟩ := serial.ready p hp
        by_cases hi : i = p.1
        · subst hi
          rw [ht] at hp'
          cases hp'
          exact ⟨u, true, hu, hf, task?_setTask_self _ ht, hown⟩
        · obtain ⟨task, own⟩ := other p.1 hi
          rw [task, own]
          exact ⟨u, b, hu, hf, hp', hown⟩

/-- Every loop that steps lead to is in step with the serial run of the executions among them. -/
lemma after_inStep (setups : List Setup) (hs : ∀ gate, ¬ service.Gated gate) (ss : List Step) :
    InStep service setups (after service setups ss)
      ((new service (setups.map Task.ofSetup)).executions ss) := by
  induction ss using List.reverseRecOn with
  | nil =>
    refine ⟨[], [], rfl, rfl, ?_⟩
    constructor
    case unexecuted => exact fun i _ => ⟨task?_new service setups i, rfl⟩
    case service | requests | queue => rfl
    case nodup => exact List.nodup_nil
    case ended | ready => exact List.forall_mem_nil _
  | append_singleton ss s ih =>
    have sound := after_sound service setups ss
    have hwait (i : Nat) (t : Task) (gate : String) (w : Work)
        (ht : (after service setups ss).task? i = some t) : t.stage ≠ .waiting gate w :=
      sound.not_waiting hs ht
    rw [executions_append, after_append]
    cases s with
    | run =>
      have ungated : ∀ gate, ¬ (after service setups ss).service.Gated gate :=
        fun gate hg => hs gate (sound.kept.gated gate hg)
      exact (List.append_nil _).symm ▸ ih.run ungated
    | release gate => exact (List.append_nil _).symm ▸ ih.release hwait gate
    | cancel i => exact (List.append_nil _).symm ▸ ih.cancel hwait i
    | execute i args =>
      refine ih.execute (fun t ht hp => ?_) args
      have made := after_setup service setups ss i
      rw [ht, Option.map_some] at made
      have first : (new service (setups.map Task.ofSetup)).task? i = some (.ofSetup t.toSetup) := by
        rw [task?_new, ← made]
        rfl
      have same := (new_sound service setups).steps_pending first ht hp
      obtain ⟨args', life⟩ := sound.life i t ht
      refine ⟨t.toSetup, made.symm, same, ?_⟩
      generalize (after service setups ss).own i = own at life
      cases life with
      | idle => rfl
      | abandoned _ hr | ready _ hr | waiting _ hr | ended _ hr => rw [hr] at hp; cases hp

/-! ### Services -/

/-- Tasks on a store leave a store behind. -/
lemma after_store (st : Store) (setups : List Setup) (ss : List Step) :
    ∃ st', (after (.store st) setups ss).service = .store st' := by
  have stays : Preserved fun _ s => ∃ st', s = .store st' := by
    constructor
    case mute => exact fun _ _ h _ => h
    case ask =>
      rintro _ _ i status blog c ⟨st, rfl⟩
      exact ⟨_, rfl⟩
  exact stays.after ⟨st, rfl⟩ setups ss

/-! ### Serial runs -/

lemma serial_queue (service : Service) (setups : List Setup) (es : List Execution) :
    (after service setups (serial es)).queue = [] := by
  induction es using List.reverseRecOn with
  | nil => rfl
  | append_singleton es p ih =>
    rw [serial_append, after_append]
    exact run_same.2

lemma after_unexecuted (service : Service) {u : Setup} (hu : setups[i]? = some u)
    {ss : List Step} (hss : ∀ args, .execute i args ∉ ss) :
    (after service setups ss).task? i = some (.ofSetup u) ∧
      (after service setups ss).own i = [] := by
  induction ss using List.reverseRecOn with
  | nil =>
    refine ⟨?_, rfl⟩
    rw [after, steps, List.foldl_nil, task?_new, hu, Option.map_some]
  | append_singleton ss s ih =>
    obtain ⟨task, own⟩ := ih fun args h => hss args (List.mem_append_left _ h)
    have sound := after_sound service setups ss
    obtain ⟨es, t', moved, task', own'⟩ := sound.step_moved task s
    rw [after_append]
    have none : es = [] ∧ t' = .ofSetup u := by
      cases moved with
      | same | freed | stopped => exact ⟨rfl, rfl⟩
      | launched args => exact absurd (List.mem_append_right ss List.mem_cons_self) (hss args)
      | turned hs | cancelled hs => cases hs
    rw [own, none.1] at own'
    rw [none.2] at task'
    exact ⟨task', own'⟩

/-- A listing that is run after others reads its pages from the store that these leave behind. -/
lemma serial_reads (st : Store) (setups : List Setup) {before : List Execution}
    (later : List Execution) {u : Setup} {maxPages : Int} (hu : setups[p.1]? = some u)
    (hk : u.kind = .list maxPages) (hf : u.callbacks.onStart.failure = none)
    (hp : p.1 ∉ before.map Prod.fst) :
    ∃ st', (after (.store st) setups (serial before)).service = .store st' ∧
      ∀ e ∈ (after (.store st) setups (serial (before ++ p :: later))).own p.1,
        e.ReadsFrom st' := by
  obtain ⟨st', hst⟩ := after_store st setups (serial before)
  have absent : ∀ args, .execute p.1 args ∉ serial before := by
    intro args h
    obtain ⟨q, hq, hmem⟩ := List.mem_flatMap.mp h
    simp only [List.mem_cons, Step.execute.injEq, List.not_mem_nil, reduceCtorEq, or_false] at hmem
    exact hp (hmem.1 ▸ List.mem_map_of_mem hq)
  obtain ⟨idle, unseen⟩ := after_unexecuted (.store st) hu absent
  have queue := serial_queue (.store st) setups before
  generalize hl : after (.store st) setups (serial before) = l at hst idle unseen queue
  obtain ⟨task, own, -, -⟩ := execute_run_self queue idle hf p.2
  have ungated : ∀ gate, ¬ (Service.store st').Gated gate := fun _ h => h
  obtain ⟨o, ho, ended⟩ :=
    Task.turn_ends ungated (t := u.launched p.2) rfl rfl rfl p.1 l.isOpen
  rw [hst] at task own
  have settlement : (Task.finish (u.launched p.2) o).settlement = [] :=
    Task.settlement_of_ended rfl ho
  rw [ended] at task own
  rw [unseen, settlement, List.append_nil, List.nil_append] at own
  -- the listing has ended, so nothing is added by the later ones
  have sound := after_sound (.store st) setups (serial (before ++ [p]))
  rw [serial_append, after_append, hl] at sound
  obtain ⟨-, kept⟩ := sound.steps_ended task rfl (serial later)
  have split : after (.store st) setups (serial (before ++ p :: later)) =
      (l.steps [.execute p.1 p.2, .run]).steps (serial later) := by
    rw [List.append_cons, serial, List.flatMap_append, ← serial, ← serial, serial_append,
      after_append, after_append, hl]
  refine ⟨st', hst, ?_⟩
  rw [split, kept, own]
  refine List.forall_mem_append.mpr ⟨fun e he => ?_, ?_⟩
  · exact Task.readsFrom_of_not_ask (Task.reportStart_no_ask e he)
  · have lists : (Work.ofKind u.blog u.kind p.2).Lists := by
      rw [hk]
      exact Work.ofKind_lists _ _ _
    exact (Task.advance_lists lists p.1 l.isOpen).2

/-! ### Serializability -/

/-- The executions of tasks that are not cancelled after a last run, in the order in which they were
accepted. -/
def effective (service : Service) (setups : List Setup) (ss : List Step) : List Execution :=
  (after service setups (ss ++ [.run])).uncancelled
    ((new service (setups.map Task.ofSetup)).executions ss)

/-- Two loops have come to the same for some executions: their tasks have ended with the same
outcomes and did the same, the same requests were sent, and the service is left in the same
state. -/
structure SameResults (l m : Loop) (es : List Execution) : Prop where
  ended : ∀ p ∈ es, ∃ o, l.outcome? p.1 = some o
  outcome : ∀ p ∈ es, m.outcome? p.1 = l.outcome? p.1
  own : ∀ p ∈ es, m.own p.1 = l.own p.1
  requests : Event.requests m.events = Event.requests l.events
  service : m.service = l.service

lemma mem_uncancelled {es : List Execution} {o : Outcome} (ht : l.task? p.1 = some t)
    (hs : t.stage = .ended o) : p ∈ l.uncancelled es ↔ p ∈ es ∧ o ≠ .cancelled := by
  rw [uncancelled, List.mem_filter, isCancelled, outcome?_some ht, Task.outcome?, hs]
  cases o <;> simp [Outcome.isCancelled]

/-- What two loops in step have come to, when no task waits for its turn. -/
lemma Serial.sameResults (h : Serial setups l m done []) :
    SameResults l m (l.uncancelled done) := by
  have same : ∀ p ∈ l.uncancelled done, ∃ t o, l.task? p.1 = some t ∧ t.stage = .ended o ∧
      m.task? p.1 = some t ∧ m.own p.1 = l.own p.1 := by
    intro p hp
    obtain ⟨t, o, ht, ended, alike, -⟩ := h.ended p (List.mem_filter.mp hp).1
    exact ⟨t, o, ht, ended, (alike ((mem_uncancelled ht ended).mp hp).2).2⟩
  constructor
  case requests => exact h.requests
  case service => exact h.service
  case ended =>
    intro p hp
    obtain ⟨t, o, ht, ended, -⟩ := same p hp
    exact ⟨o, by rw [outcome?_some ht, Task.outcome?, ended]⟩
  case outcome =>
    intro p hp
    obtain ⟨t, o, ht, -, ht', -⟩ := same p hp
    rw [outcome?_some ht, outcome?_some ht']
  case own =>
    intro p hp
    obtain ⟨t, o, -, -, -, own⟩ := same p hp
    exact own

lemma after_serial (setups : List Setup) (hs : ∀ gate, ¬ service.Gated gate) (ss : List Step) :
    Serial setups (after service setups (ss ++ [.run]))
      (after service setups (serial (effective service setups ss)))
      ((new service (setups.map Task.ofSetup)).executions ss) [] := by
  obtain ⟨done, waiting, executed, queue, serial⟩ := after_inStep setups hs (ss ++ [.run])
  have rested : waiting = [] := by
    rw [after_append] at queue
    exact List.map_eq_nil_iff.mp (queue.symm.trans run_same.2)
  rw [executions_append, rested, List.append_nil] at executed
  rw [← (List.append_nil _).symm.trans executed, rested] at serial
  exact serial

/-- **Serializability.** On a service without gates, such as a store or a client, any steps with a
run at the end come to the same as to run one after the other, in the order in which they were
accepted, the executions whose tasks are not cancelled. The cancelled ones made no calls. So all the
pages of a listing are read from one store: the one that the executions before it leave behind. -/
theorem runs_serially (service : Service) (setups : List Setup) (ss : List Step)
    (hs : ∀ gate, ¬ service.Gated gate) :
    SameResults (after service setups (ss ++ [.run]))
      (after service setups (serial (effective service setups ss))) (effective service setups ss) ∧
    (∀ p ∈ (new service (setups.map Task.ofSetup)).executions ss,
      p ∉ effective service setups ss →
      ∀ e ∈ (after service setups (ss ++ [.run])).own p.1, e.deed.isAsk = false) ∧
    ∀ st before p later maxPages, service = .store st →
      effective service setups ss = before ++ p :: later →
      setups[p.1]?.map Setup.kind = some (.list maxPages) →
      ∃ st', (after service setups (serial before)).service = .store st' ∧
        ∀ e ∈ (after service setups (ss ++ [.run])).own p.1, e.ReadsFrom st' := by
  have serial := after_serial setups hs ss
  have results : SameResults _ _ (effective service setups ss) := serial.sameResults
  refine ⟨results, fun p hp hne => ?_, ?_⟩
  · obtain ⟨t, o, ht, ended, -, silent⟩ := serial.ended p hp
    refine silent ?_
    by_contra ho
    exact hne ((mem_uncancelled ht ended).mpr ⟨hp, ho⟩)
  · rintro st before p later maxPages rfl split hk
    have hp : p ∈ effective (.store st) setups ss := by rw [split]; simp
    obtain ⟨u, hu, hk⟩ := Option.map_eq_some_iff.mp hk
    obtain ⟨t, o, ht, ended, -⟩ := serial.ended p (List.mem_filter.mp hp).1
    have made := after_setup (.store st) setups (ss ++ [.run]) p.1
    rw [ht, hu, Option.map_some, Option.some.injEq] at made
    have started := (after_sound (.store st) setups (ss ++ [.run])).start_unfailing ht ended
    rw [made] at started
    have nodup : ((effective (.store st) setups ss).map Prod.fst).Nodup := by
      have whole := serial.nodup
      rw [List.append_nil] at whole
      exact whole.sublist (List.filter_sublist.map _)
    rw [split] at nodup
    have fresh : p.1 ∉ before.map Prod.fst := notMem_of_nodup nodup
    obtain ⟨st', hst, reads⟩ := serial_reads st setups later hu hk started fresh
    rw [← split, results.own p hp] at reads
    exact ⟨st', hst, reads⟩

/-- A store with one post, of which a page holds one. -/
def oneStore : Service :=
  .store (.ofPosts [.empty] 1 none
    ⟨⟨2024, 2, 29, by decide, by decide, by decide⟩, .midnight, none⟩)

/-- Three tasks: a listing, the creation of a post, and a task that loads a post. -/
def threeTasks : List Setup :=
  [⟨.list 5, none, .none, .console⟩, ⟨.create, none, .none, .console⟩,
    ⟨.load, none, .none, .console⟩]

/-- A post is created before a listing has its turn; the third task is stopped before. -/
def threeSteps : List Step :=
  [.execute 1 [.post .empty], .execute 2 [.text "1"], .execute 0 [], .cancel 2]

theorem threeTasks_serially :
    SameResults (after oneStore threeTasks (threeSteps ++ [.run]))
      (after oneStore threeTasks (serial [(1, [.post .empty]), (0, [])]))
      [(1, [.post .empty]), (0, [])] ∧
    ∃ st', (after oneStore threeTasks (serial [(1, [.post .empty])])).service = .store st' ∧
      ∀ e ∈ (after oneStore threeTasks (threeSteps ++ [.run])).own 0, e.ReadsFrom st' := by
  have accepted : effective oneStore threeTasks threeSteps =
      [(1, [.post .empty]), (0, [])] := by cbv
  obtain ⟨results, -, reads⟩ := runs_serially oneStore threeTasks threeSteps fun _ h => h
  rw [accepted] at results
  exact ⟨results, reads _ [(1, [.post .empty])] (0, []) [] 5 rfl accepted rfl⟩

end Loop

end BlogConsole
