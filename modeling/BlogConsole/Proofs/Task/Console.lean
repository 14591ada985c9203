import BlogConsole.Proofs.Task.Stages

/-!
What a task shows on the console.

If a task reports on the console and none of its calls comes to a gate, its work alone tells what
happens until it ends: every step shows its own events, and a call those of its service, which
answers it. A call that comes to a closed gate keeps the task from its end.
-/

namespace BlogConsole

/-- What was shown until an end, and the end. -/
structure Showing where
  events : List Event
  outcome : Outcome

def Showing.after (es : List Event) (s : Showing) : Showing := { s with events := es ++ s.events }

/-- What the console is told of an error of the service. -/
def ApiError.hint (e : ApiError) : List Event :=
  if e.status.any Client.isAuthorizationStatus then [.output Task.authorizationHint] else []

lemma ApiError.hint_requests (e : ApiError) : Event.requests e.hint = [] := by
  unfold hint
  split <;> rfl

lemma ApiError.hint_notices (e : ApiError) : Event.notices e.hint = [] := by
  unfold hint
  split <;> rfl

/-- What work shows that a task of some name does on the posts of a blog. -/
def Work.shows (name : String) (blog : Option String) : Work → Service → Showing
  | done r, _ => ⟨[.output (Display.resultText r)], .result r⟩
  | failed f, _ => ⟨[.notice (.taskFailed name f)], .failure f⟩
  | note n next, s => (next.shows name blog s).after [.notice n]
  | handle e next, s => (next.shows name blog s).after e.hint
  | ask c next, s =>
    let served := s.serve 0 blog c
    ((next served.reply).shows name blog served.service).after served.events

/-- None of the calls that work makes on a service comes to a gate. -/
def Work.Free (blog : Option String) : Work → Service → Prop
  | done _, _ => True
  | failed _, _ => True
  | note _ next, s => next.Free blog s
  | handle _ next, s => next.Free blog s
  | ask c next, s =>
    let served := s.serve 0 blog c
    served.gate = none ∧ (next served.reply).Free blog served.service

variable {name : String} {blog : Option String} {s : Service} {w : Work}

lemma Work.free_of_ungated (ungated : ∀ gate, ¬ s.Gated gate) (w : Work) : w.Free blog s := by
  induction w generalizing s with
  | done | failed => trivial
  | note _ _ ih | handle _ _ ih => exact ih ungated
  | ask c next ih =>
    refine ⟨?_, ih _ fun gate h => ungated gate h.of_serve⟩
    cases gate : (s.serve 0 blog c).gate with
    | none => rfl
    | some gate' => exact absurd (Service.gated_of_gate gate) (ungated gate')

lemma Work.shows_ne_cancelled (w : Work) (s : Service) :
    (w.shows name blog s).outcome ≠ .cancelled := by
  induction w generalizing s with
  | done | failed => nofun
  | note _ _ ih | handle _ _ ih => exact ih s
  | ask _ _ ih => exact ih _ _

/-- A task that reports on the console shows what its work shows, and ends like it. -/
lemma Task.advance_shows {t : Task} (console : t.callbacks = .console)
    (reports : t.handler = .reports) (free : w.Free t.blog s) (isOpen : String → Bool) :
    Entry.shown (t.advance 0 isOpen w s).record = (w.shows t.kind.name t.blog s).events ∧
      (t.advance 0 isOpen w s).task = t.finish (w.shows t.kind.name t.blog s).outcome := by
  induction w generalizing s with
  | done r =>
    have reported : t.returning 0 r =
        [t.did (.returned r) [],
          (t.inStatus .finished).did (.complete r) [.output (Display.resultText r)]] := by
      simp [returning, reportResult, react, inStatus, console, Callbacks.completeEvent,
        Callbacks.onComplete, Reaction.nothing, Display.complete, Display.shownText]
    have outcome : t.outcomeOf r = .result r := by
      simp [outcomeOf, console, Callbacks.onComplete, Reaction.nothing]
    rw [advance, reported, outcome]
    exact ⟨rfl, rfl⟩
  | failed f => exact ⟨rfl, rfl⟩
  | note n next ih =>
    obtain ⟨shown, task⟩ := ih free
    exact ⟨congrArg (Event.notice n :: ·) shown, task⟩
  | handle e next ih =>
    obtain ⟨shown, task⟩ := ih free
    have told : Entry.shown (t.handle 0 e) = e.hint := by
      rw [Task.handle, reports]
      exact List.append_nil _
    refine ⟨?_, task⟩
    rw [advance, Progress.after, Entry.shown_append, told, shown]
    rfl
  | ask c next ih =>
    obtain ⟨ungated, free⟩ := free
    obtain ⟨shown, task⟩ := ih _ free
    unfold advance
    dsimp only
    rw [ungated]
    exact ⟨congrArg ((s.serve 0 t.blog c).events ++ ·) shown, task⟩

/-- A task whose work is not free waits at the first closed gate. -/
lemma Task.advance_waits {t : Task} (hindered : ¬ w.Free t.blog s) :
    ∃ gate next, (t.advance 0 (fun _ => false) w s).task.stage = .waiting gate next := by
  induction w generalizing s with
  | done | failed => exact absurd trivial hindered
  | note _ _ ih | handle _ _ ih => exact ih hindered
  | ask c next ih =>
    unfold advance
    dsimp only
    cases gate : (s.serve 0 t.blog c).gate with
    | some gate' => exact ⟨gate', _, rfl⟩
    | none => exact ih _ fun free => hindered ⟨gate, free⟩

end BlogConsole
