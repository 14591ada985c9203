import BlogConsole.Proofs.Loop.Served

/-!
How a task ended is told three times: by its outcome, by the result it reported, and by its status.
The three agree on every way in which a task can end, and no task is stuck: after a run an accepted
task has ended, unless the gate of its last call is closed.
-/

namespace BlogConsole

open Event

/-! ### What entries tell -/

namespace Entry

variable {es fs : List Entry}

def completions (es : List Entry) : List Result :=
  es.filterMap fun e =>
    match e.deed with
    | .complete r => some r
    | _ => none

def failures (es : List Entry) : List Failure :=
  es.filterMap fun e =>
    match e.deed with
    | .raised f => some f
    | _ => none

/-- The entries tell nothing of the end of a task. -/
structure Mute (es : List Entry) : Prop where
  completions : completions es = []
  failures : failures es = []
  verdicts : verdicts es = []

/-- The outcome of a task agrees with its entries: a result is what it reported, to a callback that
returned; a failure is the one of that callback or the one of its work, which is noticed once and
without a report; a cancelled task reports nothing, and neither does one that has not ended. -/
structure Agrees (u : Setup) (own : List Entry) (outcome : Option Outcome) : Prop where
  of_result : ∀ r, outcome = some (.result r) →
    completions own = [r] ∧ (u.callbacks.onComplete r).failure = none
  of_failed_report : ∀ r ∈ completions own, ∀ f, (u.callbacks.onComplete r).failure = some f →
    outcome = some (.failure f) ∧ verdicts own = []
  of_failed_work : ∀ f ∈ failures own, outcome = some (.failure f) ∧ completions own = [] ∧
    verdicts own = [.taskFailed u.kind.name f]
  of_failure : ∀ f, outcome = some (.failure f) →
    f ∈ failures own ∨ ∃ r ∈ completions own, (u.callbacks.onComplete r).failure = some f
  of_cancelled : outcome = some .cancelled → completions own = []
  of_none : outcome = none → Mute own

lemma completions_append : completions (es ++ fs) = completions es ++ completions fs :=
  List.filterMap_append

lemma failures_append : failures (es ++ fs) = failures es ++ failures fs := List.filterMap_append

/-- A start, a refusal and work tell nothing of the end. -/
lemma mute_of_deeds
    (h : ∀ e ∈ es, (e.deed.isStart || e.deed.isRefused || e.deed.isWork) = true ∧ Quiet e.events) :
    Mute es := by
  constructor
  case completions =>
    refine List.filterMap_eq_nil_iff.mpr fun e he => ?_
    have := (h e he).1
    cases hd : e.deed with
    | complete r => rw [hd] at this; cases this
    | _ => rfl
  case failures =>
    refine List.filterMap_eq_nil_iff.mpr fun e he => ?_
    have := (h e he).1
    cases hd : e.deed with
    | raised f => rw [hd] at this; cases this
    | _ => rfl
  case verdicts => exact verdicts_of_quiet fun e he => (h e he).2

lemma Mute.append (he : Mute es) (hf : Mute fs) : Mute (es ++ fs) := by
  constructor
  case completions => rw [completions_append, he.completions, hf.completions]; rfl
  case failures => rw [failures_append, he.failures, hf.failures]; rfl
  case verdicts => rw [verdicts_append, he.verdicts, hf.verdicts]; rfl

lemma Agrees.of_mute {u : Setup} (h : Mute es) : Agrees u es none := by
  constructor
  case of_failed_report => simp [h.completions]
  case of_failed_work => simp [h.failures]
  case of_none => exact fun _ => h
  case of_result | of_failure | of_cancelled => simp

lemma Agrees.after {u : Setup} {own : List Entry} {outcome : Option Outcome} (hm : Mute es)
    (h : Agrees u own outcome) : Agrees u (es ++ own) outcome := by
  have completions : completions (es ++ own) = completions own := by
    rw [completions_append, hm.completions]; rfl
  have failures : failures (es ++ own) = failures own := by
    rw [failures_append, hm.failures]; rfl
  have verdicts : verdicts (es ++ own) = verdicts own := by
    rw [verdicts_append, hm.verdicts]; rfl
  constructor
  case of_result => rw [completions]; exact h.of_result
  case of_failed_report => rw [completions, verdicts]; exact h.of_failed_report
  case of_failed_work => rw [failures, completions, verdicts]; exact h.of_failed_work
  case of_failure => rw [failures, completions]; exact h.of_failure
  case of_cancelled => rw [completions]; exact h.of_cancelled
  case of_none => exact fun ho => hm.append (h.of_none ho)

end Entry

open Entry

namespace Task

variable {t : Task} {i : Nat} {own mid : List Entry} {args : List Argument}

lemma react_mute {r : Reaction} : Mute (t.react i r) := by
  refine mute_of_deeds fun e he => ?_
  obtain ⟨-, refused, quiet⟩ := mem_react he
  exact ⟨by simp [refused], quiet⟩

lemma opening_mute : Mute (t.opening i) := by
  have start : Mute [(t.inStatus .running).did (.start t.kind.progress)
      [t.callbacks.startEvent i t.kind.progress .running]] :=
    mute_of_deeds (List.forall_mem_singleton.mpr ⟨rfl, Callbacks.startEvent_quiet _ _ _ _⟩)
  exact start.append react_mute

lemma work_mute (h : ∀ e ∈ mid, e.IsWork) : Mute mid :=
  mute_of_deeds fun e he => ⟨by simp [(h e he).deed], (h e he).quiet⟩

/-- A result is reported once, and is no failure. -/
lemma completions_returning (t : Task) (i : Nat) (r : Result) :
    completions (t.returning i r) = [r] ∧ failures (t.returning i r) = [] := by
  have mute : Mute ((t.inStatus .finished).react i (t.callbacks.onComplete r)) := react_mute
  exact ⟨congrArg (r :: ·) mute.completions, mute.failures⟩

lemma verdicts_returning (t : Task) (i : Nat) (r : Result) : verdicts (t.returning i r) = [] :=
  verdicts_of_quiet (returning_quiet r)

lemma agrees_returned (t : Task) (i : Nat) (r : Result) :
    Agrees t.toSetup ((t.inStatus .running).returning i r) (some (t.outcomeOf r)) := by
  obtain ⟨reported, unfailed⟩ := completions_returning (t.inStatus .running) i r
  have quiet := verdicts_returning (t.inStatus .running) i r
  unfold outcomeOf
  cases hf : (t.callbacks.onComplete r).failure with
  | none =>
    constructor
    case of_result =>
      rintro v ⟨⟩
      exact ⟨reported, hf⟩
    case of_failed_report =>
      intro v hv f hfail
      rw [reported, List.mem_singleton] at hv
      rw [hv, hf] at hfail
      cases hfail
    case of_failed_work => simp [unfailed]
    case of_failure | of_cancelled | of_none => simp
  | some f =>
    constructor
    case of_failed_report =>
      intro v hv g hfail
      rw [reported, List.mem_singleton] at hv
      rw [hv, hf] at hfail
      cases hfail
      exact ⟨rfl, quiet⟩
    case of_failed_work => simp [unfailed]
    case of_failure =>
      rintro g ⟨⟩
      exact .inr ⟨r, by simp [reported], hf⟩
    case of_result | of_cancelled | of_none => simp

lemma agrees_raised (t : Task) (f : Failure) :
    Agrees t.toSetup ((t.inStatus .running).raising f) (some (.failure f)) := by
  have failed : failures ((t.inStatus .running).raising f) = [f] := rfl
  have unreported : completions ((t.inStatus .running).raising f) = [] := rfl
  constructor
  case of_failed_report => simp [unreported]
  case of_failed_work =>
    intro g hg
    rw [failed, List.mem_singleton] at hg
    subst hg
    exact ⟨rfl, unreported, rfl⟩
  case of_failure =>
    rintro g ⟨⟩
    exact .inl (by simp [failed])
  case of_result | of_cancelled | of_none => simp

lemma agrees_cancelled (t : Task) : Agrees t.toSetup [t.cancellation] (some .cancelled) := by
  have unfailed : failures [t.cancellation] = [] := rfl
  have unreported : completions [t.cancellation] = [] := rfl
  constructor
  case of_failed_report => simp [unreported]
  case of_failed_work => simp [unfailed]
  case of_cancelled => exact fun _ => unreported
  case of_result | of_failure | of_none => simp

lemma Closing.agrees {w : Work} {o : Outcome} {closing : List Entry}
    (h : Closing t i w o closing) : Agrees t.toSetup closing (some o) := by
  cases h with
  | returned r => exact agrees_returned t i r
  | raised f => exact agrees_raised t f
  | cancelled => exact agrees_cancelled t

lemma Life.agrees (h : Life t i args own) : Agrees t.toSetup own t.outcome? := by
  have worked {w : Work} {mid : List Entry} (h : Trace t.toSetup i (t.workOf args) mid w) :
      Mute (t.opening i ++ mid) := opening_mute.append (work_mute (isWork_of_trace h))
  cases h with
  | idle hs => rw [outcome?, hs]; exact .of_mute ⟨rfl, rfl, rfl⟩
  | abandoned hs => rw [outcome?, hs]; exact .of_mute opening_mute
  | ready hs _ _ hmid => rw [outcome?, hs]; exact .of_mute (worked hmid)
  | waiting hs _ _ hmid => rw [outcome?, hs]; exact .of_mute (worked hmid)
  | ended hs _ _ hmid hc => rw [outcome?, hs]; exact .after (worked hmid) hc.agrees

end Task

namespace Loop

variable {l : Loop} {gates : String → Prop} {i : Nat} {t : Task}
variable {service : Service} {setups : List Setup} {ss : List Step} {args : List Argument}

/-- A task has ended and is finished. -/
def Done (l : Loop) (i : Nat) : Prop := (∃ o, l.outcome? i = some o) ∧ l.status i = .finished

/-- A task is running, and the last thing it did was a call whose answer is behind a closed gate. -/
def Suspended (l : Loop) (i : Nat) (gate : String) : Prop :=
  l.status i = .running ∧ l.isOpen gate = false ∧
    (∃ w, l.stage? i = some (.waiting gate w)) ∧
    ∃ last, (l.own i).getLast? = some last ∧ last.deed.isAsk = true

/-- Where no task is ready, a task that is underway has ended or waits. -/
lemma Sound.rests (h : Sound gates l) (hq : l.queue = []) (ht : l.task? i = some t)
    (hu : t.Underway) : l.Done i ∨ ∃ gate, gates gate ∧ l.Suspended i gate := by
  have hs := stage?_some ht
  obtain ⟨args, life⟩ := h.life i t ht
  generalize hown : l.own i = own at life
  cases life with
  | idle hstage | abandoned hstage => rw [Task.Underway, hstage] at hu; exact hu.elim
  | ready hstage =>
    rw [hstage] at hs
    obtain ⟨queued, -⟩ := (h.kept.placed i).of_ready hs
    rw [hq] at queued
    cases queued
  | @waiting gate w mid last hstage hr _ _ hlast hask =>
    rw [hstage] at hs
    obtain ⟨-, -, closed, hgate⟩ := (h.kept.placed i).of_waiting hs
    refine .inr ⟨gate, hgate, (status_some ht).trans hr, closed, ⟨w, hs⟩, last, ?_, hask⟩
    rw [hown, List.getLast?_append, hlast, Option.some_or]
  | ended hstage hf =>
    exact .inl ⟨⟨_, by rw [outcome?_some ht, Task.outcome?, hstage]⟩, by rw [status_some ht, hf]⟩

/-- After a run an accepted task has ended or waits, and it has ended if the gates are open. -/
lemma Accepted.run_rests (hi : i < setups.length) (h : Accepted service setups ss i args) :
    ((after service setups (ss ++ [.run])).Done i ∨
      ∃ gate, (after service setups (ss ++ [.run])).Suspended i gate) ∧
    ((∀ gate, service.Gated gate → (after service setups ss).isOpen gate = true) →
      (after service setups (ss ++ [.run])).Done i) := by
  have sound := after_sound service setups ss
  obtain ⟨t, ht, -, hu, life⟩ := h.underway hi
  rw [after_append]
  obtain ⟨u, hu', underway, -⟩ := sound.steps_underway ht hu life [.run]
  have rests := (sound.step .run).rests run_same.2 hu' underway
  refine ⟨rests.imp_right fun ⟨gate, hgate⟩ => ⟨gate, hgate.2⟩, fun hopen => ?_⟩
  obtain done | ⟨gate, hgate, -, closed, -⟩ := rests
  · exact done
  · -- the gates are those of the service, and a run closes none
    have same : (after service setups ss).run.isOpen = (after service setups ss).isOpen :=
      isOpen_congr run_same.1
    rw [Loop.step, same, hopen gate hgate] at closed
    cases closed

/-- **Agreement.** Whatever is done to the loop, the outcome of every task agrees with what it
reported and noticed, and others see all of that. After a run, a task whose execution was accepted
has ended and is finished, or waits for the answer to a call; and it has ended if all gates of the
service are open. -/
theorem after_agrees (service : Service) (setups : List Setup) (ss : List Step) (i : Nat)
    (hi : i < setups.length) :
    Agrees setups[i] ((after service setups ss).own i) ((after service setups ss).outcome? i) ∧
    (∀ e ∈ (after service setups ss).own i, e.Evident service setups[i] i) ∧
    ∀ args, Accepted service setups ss i args →
      ((after service setups (ss ++ [.run])).Done i ∨
        ∃ gate, (after service setups (ss ++ [.run])).Suspended i gate) ∧
      ((∀ gate, service.Gated gate → (after service setups ss).isOpen gate = true) →
        (after service setups (ss ++ [.run])).Done i) := by
  refine ⟨?_, own_evident service ss hi, fun args h => h.run_rests hi⟩
  obtain ⟨t, ht, setup⟩ := exists_task service ss hi
  obtain ⟨args, life⟩ := (after_sound service setups ss).life i t ht
  rw [outcome?_some ht, ← setup]
  exact life.agrees

/-- A service whose first answer is behind a gate. -/
def gatedService : Service := .ofEntries [⟨some "gate", fun c => c.fail .outOfReplies⟩]

def loading : Setup := ⟨.load, none, .none, .console⟩

lemma gatedService_gated {gate : String} (h : gatedService.Gated gate) : gate = "gate" := by
  obtain ⟨_ | n, hn⟩ := h
  · exact (Option.some.inj hn).symm
  · cases hn

theorem loading_agrees :
    Agrees loading
      ((after gatedService [loading] [.execute 0 [.text "1"], .run, .release "gate"]).own 0)
      ((after gatedService [loading] [.execute 0 [.text "1"], .run, .release "gate"]).outcome? 0) ∧
    (after gatedService [loading]
      [.execute 0 [.text "1"], .run, .release "gate", .run]).Done 0 := by
  have one : 0 < [loading].length := Nat.one_pos
  have accepted : Accepted gatedService [loading] [.execute 0 [.text "1"], .run, .release "gate"] 0
      [.text "1"] := ⟨[], [.run, .release "gate"], rfl, rfl⟩
  obtain ⟨agrees, -, ends⟩ := after_agrees gatedService [loading]
    [.execute 0 [.text "1"], .run, .release "gate"] 0 one
  refine ⟨agrees, (ends _ accepted).2 fun gate h => ?_⟩
  rw [gatedService_gated h]
  rfl

end Loop

end BlogConsole
