import BlogConsole.Proofs.Loop.View

/-!
What the loop keeps of its tasks: the queue holds the ready ones and the waiters are the waiting
ones, each once, and every waiting task waits at a closed gate of the service.

During a run the queue is empty and the tasks whose turns are still to come are ready in its place,
so `Kept` is about any list of turns.
-/

namespace BlogConsole

namespace Loop

variable {l l' : Loop} {gates : String → Prop} {is is' : List Nat} {i j : Nat} {t : Task}

/-! ### Stages -/

def stage? (l : Loop) (i : Nat) : Option Stage := (l.task? i).map (·.stage)

lemma stage?_some (h : l.task? i = some t) : l.stage? i = some t.stage := by
  rw [stage?, h, Option.map_some]

lemma stage?_settle (l : Loop) (i j : Nat) : (l.settle i).stage? j = l.stage? j := by
  by_cases hj : i = j
  · subst hj
    cases ht : l.task? i with
    | none => rw [settle, ht]
    | some t => rw [stage?_some (settle_self ht).1, stage?_some ht, Task.settled_stage]
  · rw [stage?, (settle_local l i j hj).1, stage?]

lemma stage?_release (gate : String) :
    (l.release gate).stage? i = (l.stage? i).map (·.freed gate) := by
  rw [stage?, task?_release, stage?, Option.map_map, Option.map_map]
  exact congrArg (fun f => (l.task? i).map f) (funext fun t => t.stage_freed gate)

lemma waitsAt_iff {gate : String} :
    l.waitsAt gate i = true ↔ ∃ w, l.stage? i = some (.waiting gate w) := by
  unfold waitsAt stage?
  cases l.task? i with
  | none => simp
  | some t => simpa using Task.waitsAt_iff

/-- What the loop keeps of one task. -/
inductive Placed (gates : String → Prop) (l : Loop) (turns : List Nat) (i : Nat) : Prop
  | ready {begun : Bool} {w : Work} :
      l.stage? i = some (.ready begun w) → i ∈ turns → i ∉ l.waiters → Placed gates l turns i
  | waiting {gate : String} {w : Work} :
      l.stage? i = some (.waiting gate w) → i ∉ turns → i ∈ l.waiters →
      l.isOpen gate = false → gates gate → Placed gates l turns i
  | still :
      (∀ stage ∈ l.stage? i, stage.Still) → i ∉ turns → i ∉ l.waiters → Placed gates l turns i

/-- The loop knows which tasks are ready, for these are its turns, and which wait. -/
structure Kept (gates : String → Prop) (l : Loop) (turns : List Nat) : Prop where
  turns_nodup : turns.Nodup
  waiters_nodup : l.waiters.Nodup
  placed : ∀ i, Placed gates l turns i
  gated : ∀ gate, l.service.Gated gate → gates gate

namespace Placed

lemma congr (h : Placed gates l is i) (stage : l'.stage? i = l.stage? i)
    (released : l'.released = l.released) (turns : i ∈ is' ↔ i ∈ is)
    (waiters : i ∈ l'.waiters ↔ i ∈ l.waiters) : Placed gates l' is' i := by
  cases h with
  | ready hstage ht hw =>
    exact ready (stage.trans hstage) (turns.mpr ht) (mt waiters.mp hw)
  | @waiting gate w hstage ht hw hopen hgate =>
    refine waiting (stage.trans hstage) (mt turns.mp ht) (waiters.mpr hw) ?_ hgate
    rw [isOpen_congr released, hopen]
  | still hstage ht hw =>
    exact still (stage ▸ hstage) (mt turns.mp ht) (mt waiters.mp hw)

lemma of_mem (h : Placed gates l is i) (hi : i ∈ is) :
    ∃ t begun w, l.task? i = some t ∧ t.stage = .ready begun w ∧ i ∉ l.waiters := by
  cases h with
  | @ready begun w hstage ht hw =>
    obtain ⟨t, ht, hstage⟩ := Option.map_eq_some_iff.mp hstage
    exact ⟨t, begun, w, ht, hstage, hw⟩
  | waiting _ ht | still _ ht => exact absurd hi ht

lemma of_ready (h : Placed gates l is i) {begun : Bool} {w : Work}
    (hs : l.stage? i = some (.ready begun w)) : i ∈ is ∧ i ∉ l.waiters := by
  cases h with
  | ready _ ht hw => exact ⟨ht, hw⟩
  | waiting h => rw [hs] at h; cases h
  | still h => exact (h _ hs).elim

lemma of_waiting (h : Placed gates l is i) {gate : String} {w : Work}
    (hs : l.stage? i = some (.waiting gate w)) :
    i ∉ is ∧ i ∈ l.waiters ∧ l.isOpen gate = false ∧ gates gate := by
  cases h with
  | waiting h ht hw hopen hgate =>
    rw [hs] at h
    cases h
    exact ⟨ht, hw, hopen, hgate⟩
  | ready h => rw [hs] at h; cases h
  | still h => exact (h _ hs).elim

lemma of_still (h : Placed gates l is i) {stage : Stage} (hs : l.stage? i = some stage)
    (hstill : stage.Still) : i ∉ is ∧ i ∉ l.waiters := by
  cases h with
  | still _ ht hw => exact ⟨ht, hw⟩
  | ready h | waiting h => rw [hs] at h; cases h; cases hstill

/-- A task that waits at the opened gate goes over from the waiters to the queue. -/
lemma release (h : Placed gates l l.queue i) (gate : String) :
    Placed gates (l.release gate) (l.release gate).queue i := by
  have turns : i ∈ (l.release gate).queue ↔ i ∈ l.queue ∨ i ∈ l.waiters ∧ l.waitsAt gate i := by
    simp [Loop.release]
  have waiters : i ∈ (l.release gate).waiters ↔ i ∈ l.waiters ∧ ¬ l.waitsAt gate i := by
    simp [Loop.release]
  cases h with
  | ready hs hq hw =>
    refine ready (by rw [stage?_release, hs]; rfl) (turns.mpr (.inl hq)) ?_
    intro h
    exact hw (waiters.mp h).1
  | @waiting g w hs hq hw hopen hgate =>
    have here : (l.release gate).stage? i = some (Stage.freed (.waiting g w) gate) := by
      rw [stage?_release, hs, Option.map_some]
    by_cases hg : g = gate
    · subst hg
      have hwaits := waitsAt_iff.mpr ⟨w, hs⟩
      rw [Stage.freed, if_pos rfl] at here
      refine ready here (turns.mpr (.inr ⟨hw, hwaits⟩)) ?_
      intro h
      exact (waiters.mp h).2 hwaits
    · have elsewhere : ¬ l.waitsAt gate i := by
        rw [waitsAt_iff, hs]
        simp [hg]
      rw [Stage.freed, if_neg hg] at here
      refine waiting here ?_ (waiters.mpr ⟨hw, elsewhere⟩) ?_ hgate
      · intro h
        rcases turns.mp h with h | h
        · exact hq h
        · exact elsewhere h.2
      · rw [Bool.eq_false_iff, ne_eq, isOpen_release, hopen]
        simp [hg]
  | still hs hq hw =>
    refine still ?_ ?_ ?_
    · intro stage hstage
      rw [stage?_release] at hstage
      obtain ⟨stage', hstage', rfl⟩ := Option.map_eq_some_iff.mp hstage
      have := hs stage' hstage'
      unfold Stage.freed
      split
      · cases this
      · exact this
    · intro h
      rcases turns.mp h with h | h
      · exact hq h
      · exact hw h.1
    · intro h
      exact hw (waiters.mp h).1

end Placed

namespace Kept

/-! ### Runs -/

lemma proceed (h : Kept gates l (i :: is)) : Kept gates (l.proceed i) is := by
  obtain ⟨fresh, nodup⟩ := List.nodup_cons.mp h.turns_nodup
  obtain ⟨t, begun, w, ht, hready, hw⟩ := (h.placed i).of_mem List.mem_cons_self
  obtain ⟨rests, gated⟩ := Task.turn_rests hready i l.isOpen l.service
  obtain ⟨task, -, service⟩ := proceed_self ht
  have here := stage?_some task
  have waiters := proceed_waiters ht
  constructor
  case turns_nodup => exact nodup
  case waiters_nodup =>
    rw [waiters]
    split
    · simpa using h.waiters_nodup.concat hw
    · exact h.waiters_nodup
  case placed =>
    intro j
    by_cases hj : j = i
    · subst hj
      obtain ⟨o, hended⟩ | ⟨gate, w', hwaits, hopen, hgate⟩ := rests
      · rw [hended] at here waiters
        exact .still (by simp [here, Stage.Still]) fresh (waiters ▸ hw)
      · rw [hwaits] at here waiters
        refine .waiting here fresh (by simp [waiters]) ?_ (h.gated gate hgate)
        rw [isOpen_congr proceed_same.1, hopen]
    · refine (h.placed j).congr (congrArg _ (proceed_of_ne (Ne.symm hj)).1) proceed_same.1 ?_ ?_
      · rw [List.mem_cons, or_iff_right hj]
      · rw [waiters]
        split <;> simp [hj]
  case gated =>
    intro gate hgate
    rw [service] at hgate
    exact h.gated gate (gated gate hgate)

lemma settle (h : Kept gates l is) (i : Nat) : Kept gates (l.settle i) is := by
  have same : (l.settle i).waiters = l.waiters ∧ (l.settle i).released = l.released ∧
      (l.settle i).service = l.service := by
    unfold Loop.settle
    split <;> exact ⟨rfl, rfl, rfl⟩
  obtain ⟨waiters, released, service⟩ := same
  exact ⟨h.turns_nodup, waiters ▸ h.waiters_nodup,
    fun j => (h.placed j).congr (stage?_settle l i j) released Iff.rfl (by rw [waiters]),
    service ▸ h.gated⟩

lemma turns (h : Kept gates l is) : Kept gates (is.foldl Loop.proceed l) [] := by
  induction is generalizing l with
  | nil => exact h
  | cons i is ih => exact ih h.proceed

lemma settlements (h : Kept gates l []) (is : List Nat) :
    Kept gates (is.foldl Loop.settle l) [] := by
  induction is generalizing l with
  | nil => exact h
  | cons i is ih => exact ih (h.settle i)

/-- After a run no task is ready. -/
lemma run (h : Kept gates l l.queue) : Kept gates l.run [] := by
  have started : Kept gates { l with queue := [] } l.queue :=
    ⟨h.turns_nodup, h.waiters_nodup,
      fun i => (h.placed i).congr rfl rfl Iff.rfl Iff.rfl, h.gated⟩
  exact started.turns.settlements l.queue

/-! ### The other steps -/

lemma readied (h : Kept gates l is) (hi : i ∉ is) (hw : i ∉ l'.waiters)
    {begun : Bool} {w : Work} (here : l'.stage? i = some (.ready begun w))
    (there : ∀ j, i ≠ j → l'.stage? j = l.stage? j) (nodup : l'.waiters.Nodup)
    (waiters : ∀ j, i ≠ j → (j ∈ l'.waiters ↔ j ∈ l.waiters))
    (released : l'.released = l.released) (service : l'.service = l.service) :
    Kept gates l' (is ++ [i]) := by
  refine ⟨by simpa using h.turns_nodup.concat hi, nodup, fun j => ?_, service ▸ h.gated⟩
  by_cases hj : i = j
  · subst hj
    exact .ready here (by simp) hw
  · exact (h.placed j).congr (there j hj) released (by simp [Ne.symm hj]) (waiters j hj)

/-- The stage of a task changed, but not whether it is ready or waits. -/
lemma stayed (h : Kept gates l is) (here : Placed gates l' is i)
    (there : ∀ j, i ≠ j → l'.stage? j = l.stage? j) (waiters : l'.waiters = l.waiters)
    (released : l'.released = l.released) (service : l'.service = l.service) :
    Kept gates l' is := by
  refine ⟨h.turns_nodup, waiters ▸ h.waiters_nodup, fun j => ?_, service ▸ h.gated⟩
  by_cases hj : i = j
  · subst hj
    exact here
  · exact (h.placed j).congr (there j hj) released Iff.rfl (by rw [waiters])

/-- A task that was not executed before becomes ready or is abandoned. -/
lemma execute (h : Kept gates l l.queue)
    (hidle : ∀ t, l.task? i = some t → t.status = .pending → t.stage = .idle)
    (args : List Argument) : Kept gates (l.execute i args).1 (l.execute i args).1.queue := by
  cases ht : l.task? i with
  | none => rwa [execute_none ht]
  | some t =>
    cases hr : t.refusal? with
    | some f => rwa [execute_refused ht args hr]
    | none =>
      have hp := Task.pending_of_refusal? hr
      obtain ⟨hq, hw⟩ := (h.placed i).of_still (stage?_some ht) (by rw [hidle t ht hp]; trivial)
      have here := stage?_some (execute_self ht args hp).1
      have there (j : Nat) (hj : i ≠ j) : (l.execute i args).1.stage? j = l.stage? j :=
        congrArg _ (execute_of_ne hj args).1
      cases hf : t.callbacks.onStart.failure with
      | some f =>
        rw [Task.launch_fails args hf] at here
        rw [execute_fails ht args hp hf] at here there ⊢
        refine h.stayed (.still (fun stage hstage => ?_) hq hw) there rfl rfl rfl
        rw [here] at hstage
        cases hstage
        trivial
      | none =>
        rw [Task.launch_starts args hf] at here
        rw [execute_starts ht args hp hf] at here there ⊢
        exact h.readied hq hw here there h.waiters_nodup (fun _ _ => Iff.rfl) rfl rfl

/-- A task that is stopped is ready, if it is to end at all. -/
lemma cancel (h : Kept gates l l.queue) (i : Nat) :
    Kept gates (l.cancel i).1 (l.cancel i).1.queue := by
  cases ht : l.task? i with
  | none => rwa [cancel_none ht]
  | some t =>
    have here := stage?_some (cancel_self ht).1
    have there (j : Nat) (hj : i ≠ j) : (l.cancel i).1.stage? j = l.stage? j :=
      congrArg _ (cancel_of_ne hj).1
    have hstage := stage?_some ht
    cases hs : t.stage with
    | ready begun w =>
      rw [hs] at hstage
      rw [Task.stop_ready hs] at here
      rw [cancel_ready ht hs] at here there ⊢
      obtain ⟨hq, hw⟩ := (h.placed i).of_ready hstage
      exact h.stayed (.ready (here.trans (congrArg some hs)) hq hw) there rfl rfl rfl
    | waiting gate w =>
      rw [hs] at hstage
      rw [Task.stop_waiting hs] at here
      rw [cancel_waiting ht hs] at here there ⊢
      obtain ⟨hq, -⟩ := (h.placed i).of_waiting hstage
      refine h.readied hq (by simp) here there (h.waiters_nodup.filter _) ?_ rfl rfl
      intro j hj
      simp [Ne.symm hj]
    | idle | abandoned | ended => rwa [cancel_still ht (by rw [hs]; trivial)]

lemma release (h : Kept gates l l.queue) (gate : String) :
    Kept gates (l.release gate) (l.release gate).queue := by
  constructor
  case turns_nodup =>
    refine h.turns_nodup.append (h.waiters_nodup.filter _) ?_
    intro i hi hwaits
    rw [List.mem_filter] at hwaits
    obtain ⟨t, begun, w, -, -, hw⟩ := (h.placed i).of_mem hi
    exact hw hwaits.1
  case waiters_nodup => exact h.waiters_nodup.filter _
  case placed => exact fun i => (h.placed i).release gate
  case gated => exact h.gated

end Kept

end Loop

end BlogConsole
