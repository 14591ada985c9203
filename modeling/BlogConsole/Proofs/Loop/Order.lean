import BlogConsole.Proofs.Loop.Sound
import Mathlib.Data.List.Chain

/-!
The order of what a task does, and of the statuses in which it is seen.

The entries of a task are those of its start, of its work and of its end, in this order. `Ordered`
says what follows from that for each of them. A task is seen in the entries it makes and between the
steps, and every step leads from the status before it to the one after it.
-/

namespace BlogConsole

/-- A status is followed by itself or by the next one. -/
inductive Status.Leads : Status → Status → Prop
  | stays (s : Status) : Leads s s
  | starts : Leads .pending .running
  | ends : Leads .running .finished

/-- The entries of a task are in order: it starts once, before all calls, and completes once, after
all calls. It is running when it starts and finished when it completes. -/
structure Entry.Ordered (own : List Entry) : Prop where
  starts_once : own.countP (·.deed.isStart) ≤ 1
  completes_once : own.countP (·.deed.isComplete) ≤ 1
  start_first : ∀ before e later, own = before ++ e :: later →
    (e.deed.isOutward = true ∨ e.deed.isComplete = true) → ∃ s ∈ before, s.deed.isStart = true
  complete_last : ∀ before e later, own = before ++ e :: later →
    e.deed.isOutward = true → ∀ c ∈ before, c.deed.isComplete = false
  running_at_start : ∀ e ∈ own, e.deed.isStart = true → e.status = .running
  finished_at_complete : ∀ e ∈ own, e.deed.isComplete = true → e.status = .finished

namespace Entry

variable {start : Entry} {early late : List Entry}

/-- What comes after the start of a task and before its end. -/
def Early (e : Entry) : Prop := e.deed.isStart = false ∧ e.deed.isComplete = false

/-- What comes at the end of a task. -/
structure Late (e : Entry) : Prop where
  not_start : e.deed.isStart = false
  not_outward : e.deed.isOutward = false
  finished : e.deed.isComplete = true → e.status = .finished

lemma Ordered.nil : Ordered [] := by
  constructor <;> simp

/-- A start, then no start and no completion, then no start and no call. -/
lemma Ordered.of_parts (hs : start.deed.isStart = true) (hr : start.status = .running)
    (he : ∀ e ∈ early, e.Early) (hl : ∀ e ∈ late, e.Late)
    (once : late.countP (·.deed.isComplete) ≤ 1) : Ordered (start :: early ++ late) := by
  have incomplete : ∀ e ∈ start :: early, e.deed.isComplete = false := by
    intro e h
    rcases List.mem_cons.mp h with rfl | h
    · exact (Deed.of_isStart hs).1
    · exact (he e h).2
  have unstarted : ∀ e ∈ early ++ late, e.deed.isStart = false := by
    intro e h
    rcases List.mem_append.mp h with h | h
    · exact (he e h).1
    · exact (hl e h).not_start
  have none_of {p : Entry → Bool} {es : List Entry} (h : ∀ e ∈ es, p e = false) :
      es.countP p = 0 := List.countP_eq_zero.mpr fun e he => by simp [h e he]
  constructor
  case starts_once =>
    rw [List.cons_append, List.countP_cons, none_of unstarted, Nat.zero_add]
    split <;> omega
  case completes_once => rwa [List.countP_append, none_of incomplete, Nat.zero_add]
  case start_first =>
    intro before e later h hd
    rw [List.cons_append] at h
    cases before with
    | nil =>
      rw [List.nil_append, List.cons.injEq] at h
      obtain ⟨complete, outward⟩ := Deed.of_isStart hs
      rw [← h.1, complete, outward] at hd
      simp at hd
    | cons s before =>
      rw [List.cons_append, List.cons.injEq] at h
      exact ⟨s, List.mem_cons_self, h.1 ▸ hs⟩
  case complete_last =>
    intro before e later h hd c hc
    rcases List.append_eq_append_iff.mp h with ⟨mid, rfl, hlate⟩ | ⟨mid, hearly, -⟩
    · -- the call would stand at the end of the task
      have : e ∈ late := by rw [hlate]; simp
      rw [(hl e this).not_outward] at hd
      cases hd
    · exact incomplete c (by rw [hearly]; exact List.mem_append_left _ hc)
  case running_at_start =>
    intro e h hd
    rw [List.cons_append] at h
    rcases List.mem_cons.mp h with rfl | h
    · exact hr
    · rw [unstarted e h] at hd
      cases hd
  case finished_at_complete =>
    intro e h hd
    rcases List.mem_append.mp h with h | h
    · rw [incomplete e h] at hd
      cases hd
    · exact (hl e h).finished hd

end Entry

namespace Task

variable {t t' : Task} {i : Nat} {own es : List Entry} {args : List Argument}
  {s : Loop.Step}

lemma early_of_react {r : Reaction} : ∀ e ∈ t.react i r, e.Early := by
  intro e he
  obtain ⟨start, complete, -⟩ := Deed.of_isRefused (mem_react he).2.1
  exact ⟨start, complete⟩

lemma late_of_react {r : Reaction} :
    (∀ e ∈ t.react i r, e.Late) ∧ (t.react i r).countP (·.deed.isComplete) = 0 := by
  refine ⟨fun e he => ?_, List.countP_eq_zero.mpr fun e he => ?_⟩
  · obtain ⟨start, complete, outward⟩ := Deed.of_isRefused (mem_react he).2.1
    exact ⟨start, outward, fun h => by rw [complete] at h; cases h⟩
  · rw [(Deed.of_isRefused (mem_react he).2.1).2.1]
    exact Bool.false_ne_true

/-- A task does nothing but report at its end. -/
lemma Closing.late {w : Work} {o : Outcome} {closing : List Entry}
    (h : Closing t i w o closing) :
    (∀ e ∈ closing, e.Late) ∧ closing.countP (·.deed.isComplete) ≤ 1 := by
  have silent (u : Task) {d : Deed} {events : List Event} (hs : d.isStart = false)
      (ho : d.isOutward = false) (hc : d.isComplete = false) : (u.did d events).Late :=
    ⟨hs, ho, fun h => by rw [did, hc] at h; cases h⟩
  cases h with
  | returned r =>
    obtain ⟨late, none⟩ := late_of_react (t := (t.inStatus .running).inStatus .finished) (i := i)
      (r := t.callbacks.onComplete r)
    constructor
    · intro e he
      rcases List.mem_cons.mp he with rfl | he
      · exact silent _ rfl rfl rfl
      · rcases List.mem_cons.mp he with rfl | he
        · exact ⟨rfl, rfl, fun _ => rfl⟩
        · exact late e he
    · have reported : ((t.inStatus .running).returning i r).countP (·.deed.isComplete) = 0 + 1 := by
        rw [returning, reportResult, List.countP_cons_of_neg (by simp [did, Deed.isComplete]),
          List.countP_cons_of_pos rfl]
        exact congrArg (· + 1) none
      omega
  | raised f =>
    refine ⟨?_, by simp [raising, noted, did, Deed.isComplete]⟩
    intro e he
    rcases List.mem_cons.mp he with rfl | he
    · exact silent _ rfl rfl rfl
    · rw [List.mem_singleton] at he
      subst he
      exact silent _ rfl rfl rfl
  | cancelled =>
    refine ⟨?_, Nat.zero_le 1⟩
    intro e he
    rw [List.mem_singleton] at he
    subst he
    exact silent _ rfl rfl rfl

lemma Life.ordered (h : Life t i args own) : Entry.Ordered own := by
  have worked {w : Work} {mid : List Entry} (h : Trace t.toSetup i (t.workOf args) mid w) :
      ∀ e ∈ mid, e.Early := fun e he => Deed.of_isWork (isWork_of_trace h e he).deed
  have opened {mid closing : List Entry} (hmid : ∀ e ∈ mid, e.Early)
      (hc : ∀ e ∈ closing, e.Late) (once : closing.countP (·.deed.isComplete) ≤ 1) :
      Entry.Ordered (t.opening i ++ mid ++ closing) :=
    .of_parts rfl rfl (List.forall_mem_append.mpr ⟨early_of_react, hmid⟩) hc once
  have unended {mid : List Entry} (hmid : ∀ e ∈ mid, e.Early) :
      Entry.Ordered (t.opening i ++ mid) := by
    rw [← List.append_nil (t.opening i ++ mid)]
    exact opened hmid (List.forall_mem_nil _) (Nat.zero_le 1)
  cases h with
  | idle => exact .nil
  | abandoned =>
    rw [← List.append_nil (t.opening i)]
    exact unended (List.forall_mem_nil _)
  | ready _ _ _ hmid => exact unended (worked hmid)
  | waiting _ _ _ hmid => exact unended (worked hmid)
  | ended _ _ _ hmid hc => exact opened (worked hmid) hc.late.1 hc.late.2

/-! ### Statuses -/

/-- What a task does in a step it does in the status before, and then in the status after it. -/
def Across (a b : Status) (es : List Entry) : Prop :=
  ∃ xs ys, es = xs ++ ys ∧ (∀ e ∈ xs, e.status = a) ∧ ∀ e ∈ ys, e.status = b

lemma Across.before {a b : Status} (h : ∀ e ∈ es, e.status = a) : Across a b es :=
  ⟨es, [], (List.append_nil es).symm, h, List.forall_mem_nil _⟩

lemma Across.after {a b : Status} (h : ∀ e ∈ es, e.status = b) : Across a b es :=
  ⟨[], es, rfl, List.forall_mem_nil _, h⟩

lemma Across.prepend {a b : Status} {mid : List Entry} (hmid : ∀ e ∈ mid, e.status = a)
    (h : Across a b es) : Across a b (mid ++ es) := by
  obtain ⟨xs, ys, rfl, hx, hy⟩ := h
  exact ⟨mid ++ xs, ys, (List.append_assoc ..).symm, List.forall_mem_append.mpr ⟨hmid, hx⟩, hy⟩

lemma opening_running : ∀ e ∈ t.opening i, e.status = .running := by
  intro e he
  rcases List.mem_cons.mp he with rfl | he
  · rfl
  · exact (mem_react he).1

lemma Closing.across {w : Work} {o : Outcome} {closing : List Entry}
    (h : Closing t i w o closing) :
    Across .running .finished closing := by
  cases h with
  | returned r =>
    -- the work ends before the task is finished, and the report comes after
    refine ⟨[_], _, rfl, by simp [did, inStatus], ?_⟩
    intro e he
    rcases List.mem_cons.mp he with rfl | he
    · rfl
    · exact (mem_react he).1
  | raised f => exact .before (by simp [raising, noted, did, inStatus])
  | cancelled => exact .after (List.forall_mem_singleton.mpr rfl)

/-- A step leads to the same status or to the next one. -/
lemma Moved.across (h : Life t i args own) (hm : Moved t i s es t') :
    t.status.Leads t'.status ∧ Across t.status t'.status es := by
  have quiet {u : Task} (hu : u.status = t.status) :
      t.status.Leads u.status ∧ Across t.status u.status [] := by
    rw [hu]
    exact ⟨.stays _, .before (List.forall_mem_nil _)⟩
  cases hm with
  | same => exact quiet rfl
  | launched args hp =>
    have launched : (t.launch i args).task.status = .running ∧
        (t.launch i args).record = t.opening i := by
      unfold launch
      dsimp only
      split <;> exact ⟨rfl, rfl⟩
    rw [hp, launched.1, launched.2]
    exact ⟨.starts, .after opening_running⟩
  | freed gate =>
    refine quiet ?_
    unfold Task.freed
    split
    · split <;> rfl
    · rfl
  | stopped =>
    refine quiet ?_
    unfold stop
    split <;> rfl
  | turned hs _ ht =>
    have hr := h.running_of_ready hs
    rw [hr]
    cases ht with
    | @waits _ _ gate w hmid =>
      have same : (t.atStage (.waiting gate w)).status = .running := hr
      rw [same]
      exact ⟨.stays _, .before hmid.running⟩
    | ends hmid hc _ => exact ⟨.ends, hc.across.prepend hmid.running⟩
  | cancelled hs _ =>
    rw [h.running_of_ready hs]
    exact ⟨.ends, .after (List.forall_mem_singleton.mpr rfl)⟩

end Task

namespace Status

lemma Leads.isChain_same {a : Status} {es : List Entry} (h : ∀ e ∈ es, e.status = a)
    {later : List Status} (hl : (a :: later).IsChain Leads) :
    (a :: es.map (·.status) ++ later).IsChain Leads := by
  induction es with
  | nil => exact hl
  | cons e es ih =>
    obtain ⟨he, hes⟩ := List.forall_mem_cons.mp h
    rw [List.map_cons, he]
    exact List.isChain_cons_cons.mpr ⟨.stays a, ih hes⟩

/-- The statuses from one to the other of a step. -/
lemma Leads.isChain_across {a b : Status} {es : List Entry} (hab : a.Leads b)
    (h : Task.Across a b es) : (a :: es.map (·.status) ++ [b]).IsChain Leads := by
  obtain ⟨xs, ys, rfl, hx, hy⟩ := h
  rw [List.map_append, ← List.cons_append, List.append_assoc]
  refine isChain_same hx ?_
  cases ys with
  | nil => exact List.isChain_pair.mpr hab
  | cons e ys =>
    obtain ⟨he, hys⟩ := List.forall_mem_cons.mp hy
    rw [List.map_cons, he]
    exact List.isChain_cons_cons.mpr
      ⟨hab, isChain_same hys (List.isChain_pair.mpr (.stays b))⟩

end Status

namespace Loop

variable {l : Loop} {gates : String → Prop} {i : Nat}

/-- The statuses in which a task is seen while steps are taken: before each of them, in the entries
that the task makes in it, and at last. -/
def seen (l : Loop) (i : Nat) : List Step → List Status
  | [] => [l.status i]
  | s :: ss =>
    l.status i :: (((l.step s).own i).drop (l.own i).length).map (·.status) ++ (l.step s).seen i ss

lemma seen_eq (l : Loop) (i : Nat) (ss : List Step) :
    ∃ later, l.seen i ss = l.status i :: later := by
  cases ss <;> exact ⟨_, rfl⟩

lemma Sound.step_seen (h : Sound gates l) (i : Nat) (s : Step) :
    (l.status i :: (((l.step s).own i).drop (l.own i).length).map (·.status) ++
      [(l.step s).status i]).IsChain Status.Leads := by
  cases ht : l.task? i with
  | none =>
    obtain ⟨task, own⟩ := h.kept.step_absent ht s
    have same : (l.step s).status i = l.status i := by rw [status, status, task, ht]
    rw [own, List.drop_length, same]
    exact List.isChain_pair.mpr (.stays _)
  | some t =>
    obtain ⟨es, t', moved, task, own⟩ := h.step_moved ht s
    obtain ⟨args, life⟩ := h.life i t ht
    obtain ⟨leads, across⟩ := moved.across life
    rw [own, List.drop_left, status_some ht, status_some task]
    exact leads.isChain_across across

lemma Sound.seen_isChain (h : Sound gates l) (i : Nat) (ss : List Step) :
    (l.seen i ss).IsChain Status.Leads := by
  induction ss generalizing l with
  | nil => exact List.isChain_singleton _
  | cons s ss ih =>
    obtain ⟨later, hlater⟩ := (l.step s).seen_eq i ss
    have rest := ih (h.step s)
    rw [seen, hlater]
    rw [hlater] at rest
    exact List.isChain_split.mpr ⟨h.step_seen i s, rest⟩

/-- **Order of a task.** Whatever is done to the loop, every task starts at most once and completes
at most once, calls the service and its handler only between the two, and goes through its statuses
one after the other: it is running when it starts and finished when it completes. -/
theorem after_ordered (service : Service) (setups : List Setup) (ss : List Step) (i : Nat) :
    Entry.Ordered ((after service setups ss).own i) ∧
      ((new service (setups.map Task.ofSetup)).seen i ss).IsChain Status.Leads ∧
      ((new service (setups.map Task.ofSetup)).seen i ss).head? = some .pending := by
  have sound := after_sound service setups ss
  have fresh := new_sound service setups
  refine ⟨?_, fresh.seen_isChain i ss, ?_⟩
  · cases ht : (after service setups ss).task? i with
    | none =>
      rw [sound.absent i ht]
      exact .nil
    | some t => exact (sound.life i t ht).choose_spec.ordered
  · obtain ⟨later, hlater⟩ := (new service (setups.map Task.ofSetup)).seen_eq i ss
    rw [hlater, List.head?_cons, status, task?_new]
    cases setups[i]? <;> rfl

end Loop

end BlogConsole
