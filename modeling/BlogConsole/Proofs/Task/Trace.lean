import BlogConsole.Proofs.Task.Verdict
import Mathlib.Data.List.Basic

/-!
Traces: the entries that the work of a task makes on its way, whatever replies it is given and
however often it has to wait for them.
-/

namespace BlogConsole

open Event

/-! ### Kinds of entries -/

namespace Deed

def isStart : Deed → Bool
  | start _ => true
  | _ => false

def isComplete : Deed → Bool
  | complete _ => true
  | _ => false

def isRefused : Deed → Bool
  | refused _ => true
  | _ => false

def isAsk : Deed → Bool
  | ask .. => true
  | _ => false

def isOutward : Deed → Bool
  | ask .. => true
  | handle _ => true
  | _ => false

def isWork : Deed → Bool
  | ask .. => true
  | handle _ => true
  | note _ => true
  | _ => false

lemma of_isWork {d : Deed} (h : d.isWork = true) : d.isStart = false ∧ d.isComplete = false := by
  cases d <;> first | exact ⟨rfl, rfl⟩ | cases h

lemma of_isRefused {d : Deed} (h : d.isRefused = true) :
    d.isStart = false ∧ d.isComplete = false ∧ d.isOutward = false := by
  cases d <;> first | exact ⟨rfl, rfl, rfl⟩ | cases h

lemma of_isStart {d : Deed} (h : d.isStart = true) :
    d.isComplete = false ∧ d.isOutward = false := by
  cases d <;> first | exact ⟨rfl, rfl⟩ | cases h

lemma not_isAsk {d : Deed} (h : d.isOutward = false) : d.isAsk = false := by
  cases d <;> first | rfl | cases h

end Deed

structure Entry.IsWork (e : Entry) : Prop where
  status : e.status = .running
  deed : e.deed.isWork = true
  quiet : Quiet e.events

def Setup.running (u : Setup) : Task := (Task.ofSetup u).inStatus .running

/-- The entries that some work makes before it goes on with other work. -/
inductive Trace (u : Setup) (i : Nat) : Work → List Entry → Work → Prop
  | stop (w : Work) : Trace u i w [] w
  | note {n : Notice} {next w : Work} {es : List Entry} :
      Trace u i next es w → Trace u i (.note n next) (u.running.noted n :: es) w
  | handle {e : ApiError} {next w : Work} {es : List Entry} :
      Trace u i next es w → Trace u i (.handle e next) (u.running.handle i e ++ es) w
  | ask {c : Call} {next : c.Reply → Work} {reply : c.Reply} {events : List Event} {w : Work}
      {es : List Entry} :
      Quiet events → Trace u i (next reply) es w →
      Trace u i (.ask c next) (u.running.did (.ask u.blog c reply) events :: es) w

namespace Trace

variable {u : Setup} {i : Nat} {w w' w'' : Work} {es fs : List Entry}

lemma trans (h : Trace u i w es w') (h' : Trace u i w' fs w'') : Trace u i w (es ++ fs) w'' := by
  induction h with
  | stop w => exact h'
  | note _ ih => exact note (ih h')
  | handle _ ih =>
    rw [List.append_assoc]
    exact handle (ih h')
  | ask hq _ ih => exact ask hq (ih h')

lemma handle_isWork (u : Setup) (i : Nat) (err : ApiError) :
    ∀ e ∈ u.running.handle i err, e.IsWork := by
  intro e he
  unfold Task.handle at he
  split at he
  · simp at he
  · rcases List.mem_cons.mp he with rfl | he
    · exact ⟨rfl, rfl, by simp [Task.did, Quiet, notices]⟩
    · split at he
      · simp at he
      · rw [List.mem_singleton] at he
        subst he
        exact ⟨rfl, rfl, quiet_notice rfl⟩
  · rw [List.mem_singleton] at he
    subst he
    refine ⟨rfl, rfl, ?_⟩
    simp only [Task.did]
    split
    · simp [Quiet, notices]
    · exact quiet_nil

lemma running (h : Trace u i w es w') : ∀ e ∈ es, e.status = .running := by
  induction h with
  | stop w => exact List.forall_mem_nil _
  | note _ ih => exact List.forall_mem_cons.mpr ⟨rfl, ih⟩
  | handle _ ih =>
    exact List.forall_mem_append.mpr ⟨fun e he => (handle_isWork u i _ e he).status, ih⟩
  | ask _ _ ih => exact List.forall_mem_cons.mpr ⟨rfl, ih⟩

/-- Plain work makes entries with ordinary notices. -/
lemma isWork {gives : Result → Prop} (h : Trace u i w es w') (hw : w.Plain gives) :
    ∀ e ∈ es, e.IsWork := by
  induction h with
  | stop w => exact List.forall_mem_nil _
  | note _ ih =>
    cases hw with
    | note hn hw => exact List.forall_mem_cons.mpr ⟨⟨rfl, rfl, quiet_notice hn⟩, ih hw⟩
  | handle _ ih =>
    cases hw with
    | handle hw => exact List.forall_mem_append.mpr ⟨handle_isWork u i _, ih hw⟩
  | ask hq _ ih =>
    cases hw with
    | ask hw => exact List.forall_mem_cons.mpr ⟨⟨rfl, rfl, hq⟩, ih (hw _)⟩

lemma plain {gives : Result → Prop} (h : Trace u i w es w') (hw : w.Plain gives) :
    w'.Plain gives := by
  induction h with
  | stop w => exact hw
  | note _ ih => cases hw with | note _ hw => exact ih hw
  | handle _ ih => cases hw with | handle hw => exact ih hw
  | ask _ _ ih => cases hw with | ask hw => exact ih (hw _)

end Trace

end BlogConsole
