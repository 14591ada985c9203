import BlogConsole.Proofs.Command.Endings
import BlogConsole.Proofs.Task.Console

/-!
What a sample shows: the complaint of what it lacks, or all that its task shows on the console.
-/

namespace BlogConsole.Sample

def work (options : Options) (blog : String) : Work :=
  .ofKind (some blog) options.mode.kind options.arguments

/-- What a sample shows that lacks nothing, and how it ends. -/
def showing (service : Service) (options : Options) (blog : String) : Showing :=
  ((work options blog).shows options.mode.kind.name (some blog) service).after
    [.output (options.mode.kind.progress ++ "\n")]

variable {service : Service} {options : Options} {blog : String}

lemma lone_shows (free : (work options blog).Free (some blog) service) :
    (Loop.lone service (options.setup blog) options.arguments).events =
        (showing service options blog).events ∧
      (Loop.lone service (options.setup blog) options.arguments).outcome? 0 =
        some (showing service options blog).outcome := by
  let u := options.setup blog
  have starts : u.callbacks.onStart.failure = none := rfl
  obtain ⟨shown, task⟩ := Task.advance_shows (t := u.launched options.arguments)
    (w := work options blog) rfl rfl free fun _ => false
  obtain ⟨settled, own, -⟩ := Loop.lone_starts starts service options.arguments
  have ended : (Loop.progress service u options.arguments).task =
      (u.launched options.arguments).finish (showing service options blog).outcome := task
  have unsettled : ((u.launched options.arguments).finish
      (showing service options blog).outcome).settlement = [] :=
    Task.settlement_of_ended rfl (Work.shows_ne_cancelled _ _)
  rw [ended] at settled own
  refine ⟨?_, Loop.outcome?_some settled⟩
  rw [Loop.lone_events starts, own, unsettled, List.append_nil, Entry.shown_append]
  exact congrArg (_ :: ·) shown

/-- The task of a sample comes to its end. -/
def Finishes (service : Service) (options : Options) (blog : String) : Prop :=
  ∃ o, (Loop.lone service (options.setup blog) options.arguments).outcome? 0 = some o

/-- The task comes to its end if none of its calls comes to a gate, and only then. -/
lemma finishes_iff :
    Finishes service options blog ↔ (work options blog).Free (some blog) service := by
  refine ⟨fun ⟨o, outcome⟩ => ?_, fun free => ⟨_, (lone_shows free).2⟩⟩
  by_contra hindered
  obtain ⟨gate, next, waits⟩ := Task.advance_waits (t := (options.setup blog).launched
    options.arguments) hindered
  obtain ⟨task, -⟩ := Loop.lone_starts (u := options.setup blog) rfl service options.arguments
  rw [Loop.outcome?_some task] at outcome
  cases waits.symm.trans (Task.settled_stage.symm.trans (Task.stage_of_outcome? outcome))

lemma perform_shows (free : (work options blog).Free (some blog) service) :
    perform service options.mode.kind (some blog) options.arguments =
      ⟨exitCode (showing service options blog).outcome, (showing service options blog).events⟩ := by
  obtain ⟨events, outcome⟩ := lone_shows free
  rw [perform_of_outcome outcome, events]

/-- A sample complains of what it lacks. Else it shows what its work shows. -/
lemma run_shows (ungated : ∀ gate, ¬ service.Gated gate) (options : Options) (blog : String) :
    run service options (some blog) =
      match options.complaint? with
      | some text => missing text
      | none => ⟨exitCode (showing service options blog).outcome,
        (showing service options blog).events⟩ := by
  refine (run_eq service options blog).trans ?_
  cases options.complaint? with
  | some text => rfl
  | none => exact perform_shows (Work.free_of_ungated ungated _)

end BlogConsole.Sample
