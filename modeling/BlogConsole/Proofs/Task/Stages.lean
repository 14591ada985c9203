import BlogConsole.Task.Loop
import Mathlib.Tactic.Lemma

/-!
The stages of a task: which of them call for a step of the loop, and at which one each step leaves
the task. A turn leaves it at its end or at a closed gate of the service.
-/

namespace BlogConsole

/-- No turn will come and no gate will be opened for the task. -/
def Stage.Still : Stage → Prop
  | .ready .. => False
  | .waiting .. => False
  | _ => True

def Stage.freed (stage : Stage) (gate : String) : Stage :=
  match stage with
  | .waiting g w => if g = gate then .ready true w else .waiting g w
  | stage => stage

/-! ### Gates -/

/-- A gate stands before some answer of a service. -/
def Service.Gated (s : Service) (gate : String) : Prop :=
  match s with
  | .script entries => ∃ n, (entries n).gate = some gate
  | _ => False

namespace Service

variable {s : Service} {gate : String}

lemma Gated.of_serve {i : Nat} {blog : Option String} {c : Call}
    (h : (s.serve i blog c).service.Gated gate) : s.Gated gate := by
  cases s with
  | store st => exact h
  | client cl transport => exact h
  | script entries =>
    obtain ⟨n, hn⟩ := h
    exact ⟨n + 1, hn⟩

lemma gated_of_gate {i : Nat} {blog : Option String} {c : Call}
    (h : (s.serve i blog c).gate = some gate) : s.Gated gate := by
  cases s with
  | store st => cases h
  | client cl transport => cases h
  | script entries => exact ⟨0, h⟩

lemma store_ungated (st : Store) : ∀ gate, ¬ (store st).Gated gate := fun _ h => h

lemma client_ungated (cl : Client) (transport : Transport) :
    ∀ gate, ¬ (client cl transport).Gated gate := fun _ h => h

end Service

/-! ### Where turns lead to -/

namespace Task

variable {t : Task} {i : Nat} {isOpen : String → Bool}

/-- The task has ended or waits at a closed gate of a service. -/
def Rests (t : Task) (isOpen : String → Bool) (s : Service) : Prop :=
  (∃ o, t.stage = .ended o) ∨
    ∃ gate w, t.stage = .waiting gate w ∧ isOpen gate = false ∧ s.Gated gate

lemma Rests.of_serve {s : Service} {blog : Option String} {c : Call}
    (h : t.Rests isOpen (s.serve i blog c).service) : t.Rests isOpen s := by
  obtain h | ⟨gate, w, hstage, hopen, hgate⟩ := h
  · exact .inl h
  · exact .inr ⟨gate, w, hstage, hopen, hgate.of_serve⟩

lemma advance_rests (t : Task) (i : Nat) (isOpen : String → Bool) (w : Work) (s : Service) :
    (t.advance i isOpen w s).task.Rests isOpen s ∧
      ∀ gate, (t.advance i isOpen w s).service.Gated gate → s.Gated gate := by
  induction w generalizing s with
  | done r => exact ⟨.inl ⟨_, rfl⟩, fun _ h => h⟩
  | failed f => exact ⟨.inl ⟨_, rfl⟩, fun _ h => h⟩
  | note n next ih => exact ih s
  | handle e next ih => exact ih s
  | ask c next ih =>
    obtain ⟨rests, gated⟩ := ih (s.serve i t.blog c).reply (s.serve i t.blog c).service
    have goes := And.intro rests.of_serve fun gate h => (gated gate h).of_serve
    unfold advance
    dsimp only
    split
    · next gate hgate =>
      split
      · exact goes
      · next hopen =>
        exact ⟨.inr ⟨gate, _, rfl, by simpa using hopen, Service.gated_of_gate hgate⟩,
          fun _ h => h.of_serve⟩
    · exact goes

/-- A turn leads to the end of the task or to a closed gate. -/
lemma turn_rests {begun : Bool} {w : Work} (h : t.stage = .ready begun w) (i : Nat)
    (isOpen : String → Bool) (s : Service) :
    (t.turn i isOpen s).task.Rests isOpen s ∧
      ∀ gate, (t.turn i isOpen s).service.Gated gate → s.Gated gate := by
  unfold turn
  rw [h]
  dsimp only
  split
  · refine ⟨.inl ⟨.cancelled, ?_⟩, fun _ h => h⟩
    split <;> rfl
  · exact t.advance_rests i isOpen w s

/-! ### The stage after a step -/

lemma launch_failure (args : List Argument) :
    (t.launch i args).failure = t.callbacks.onStart.failure := by
  unfold launch
  dsimp only
  split <;> simp_all

lemma launch_fails (args : List Argument) {f : Failure}
    (h : t.callbacks.onStart.failure = some f) :
    (t.launch i args).task = (t.inStatus .running).atStage .abandoned := by
  unfold launch
  rw [h]

lemma launch_starts (args : List Argument) (h : t.callbacks.onStart.failure = none) :
    (t.launch i args).task =
      (t.inStatus .running).atStage (.ready false (Work.ofKind t.blog t.kind args)) := by
  unfold launch
  rw [h]

lemma stop_ready {begun : Bool} {w : Work} (h : t.stage = .ready begun w) :
    t.stop = { t with stopped := true } := by
  rw [stop, h]

lemma stop_waiting {gate : String} {w : Work} (h : t.stage = .waiting gate w) :
    t.stop = { t.atStage (.ready true w) with stopped := true } := by
  rw [stop, h]

lemma stage_of_outcome? {o : Outcome} (h : t.outcome? = some o) : t.stage = .ended o := by
  unfold outcome? at h
  split at h
  · next hs => rw [hs, Option.some.inj h]
  · cases h

lemma settled_stage : t.settled.stage = t.stage := by
  unfold settled
  split <;> rfl

lemma pending_of_refusal? (h : t.refusal? = none) : t.status = .pending := by
  unfold refusal? at h
  split at h
  · assumption
  · cases h

lemma waitsAt_iff {gate : String} : t.waitsAt gate = true ↔ ∃ w, t.stage = .waiting gate w := by
  unfold waitsAt
  cases h : t.stage with
  | waiting g w => simp
  | idle | abandoned | ready | ended => simp

lemma stage_freed (gate : String) : (t.freed gate).stage = t.stage.freed gate := by
  unfold freed Stage.freed
  cases h : t.stage with
  | waiting g w =>
    dsimp only
    split
    · rfl
    · exact h
  | idle | abandoned | ready | ended => exact h

end Task

end BlogConsole
