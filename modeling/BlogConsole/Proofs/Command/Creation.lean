import BlogConsole.Proofs.Command.Console

/-!
The exit code of the sample for creating a post, and the dialog that it prints.

The sample prints its progress, then what there is to say about refused credentials, and then one
dialog. The title of the dialog tells whether the service answered with a post. The exit code is
taken from the id of the post in the dialog, and a draft has none. So the two agree unless the
service answers with a post that has no id either.
-/

namespace BlogConsole

/-! ### What is printed -/

namespace Event

/-- The texts that are printed, in order. -/
def outputs (es : List Event) : List String :=
  es.filterMap fun
    | output text => some text
    | _ => none

lemma outputs_append (es fs : List Event) : outputs (es ++ fs) = outputs es ++ outputs fs :=
  List.filterMap_append

lemma outputs_of_served {es : List Event} (h : ∀ e ∈ es, e.IsServed) : outputs es = [] := by
  refine List.filterMap_eq_nil_iff.mpr fun e he => ?_
  cases e with
  | output text => exact (h _ he).elim
  | _ => rfl

end Event

namespace Work

variable {name : String} {blog : Option String} {s : Service} {w : Work} {texts : List String}
  {o : Outcome}

/-- Work on a service prints some texts and ends with an outcome. -/
structure Prints (name : String) (blog : Option String) (s : Service) (w : Work)
    (texts : List String) (o : Outcome) : Prop where
  outputs : Event.outputs (w.shows name blog s).events = texts
  outcome : (w.shows name blog s).outcome = o

namespace Prints

lemma done (r : Result) : (done r).Prints name blog s [Display.resultText r] (.result r) :=
  ⟨rfl, rfl⟩

lemma failed (f : Failure) : (failed f).Prints name blog s [] (.failure f) := ⟨rfl, rfl⟩

lemma note {n : Notice} (h : w.Prints name blog s texts o) :
    (note n w).Prints name blog s texts o := ⟨h.outputs, h.outcome⟩

lemma handle {e : ApiError} (h : w.Prints name blog s texts o) :
    (handle e w).Prints name blog s (Event.outputs e.hint ++ texts) o :=
  ⟨(Event.outputs_append ..).trans (congrArg _ h.outputs), h.outcome⟩

lemma ask {c : Call} {next : c.Reply → Work} {r : c.Reply}
    (answered : (s.serve 0 blog c).reply = r)
    (h : (next r).Prints name blog (s.serve 0 blog c).service texts o) :
    (ask c next).Prints name blog s texts o := by
  subst answered
  refine ⟨?_, h.outcome⟩
  rw [shows, Showing.after, Event.outputs_append, Event.outputs_of_served (s.serve_served 0 blog c)]
  exact h.outputs

end Prints

end Work

/-! ### Creating a post -/

def CreateResult.created (post : Post) : CreateResult :=
  ⟨post, "Post Created", "postId: " ++ Display.orNone post.id⟩

def CreateResult.refused (draft : Post) : CreateResult := ⟨draft, "Create Failed", "Please Retry"⟩

namespace Work

variable {blog : Option String} {s : Service} {draft : Post}

lemma free_create :
    (create blog (.post draft)).Free blog s ↔
      (s.serve 0 blog (.insert (.post draft))).gate = none := by
  refine ⟨And.left, fun ungated => ⟨ungated, ?_⟩⟩
  rcases (s.serve 0 blog (.insert (.post draft))).reply with f | post
  · cases f <;> trivial
  · trivial

/-- What is printed once the call is answered, with a post, with an error of the service, or with
another failure. -/
lemma create_prints (name : String) (blog : Option String) (s : Service) (draft : Post) :
    let reply := (s.serve 0 blog (.insert (.post draft))).reply
    let w := create blog (.post draft)
    (∃ post, reply = .ok post ∧
      let r : Result := .created (.created post)
      w.Prints name blog s [Display.resultText r] (.result r)) ∨
    (∃ e origin, reply = .error (.api e origin) ∧
      let r : Result := .created (.refused draft)
      w.Prints name blog s (Event.outputs e.hint ++ [Display.resultText r]) (.result r)) ∨
    ∃ f, reply = .error f ∧ (∀ e origin, f ≠ .api e origin) ∧
      w.Prints name blog s [] (.failure f) := by
  intro reply w
  rcases answered : reply with f | post
  · cases f with
    | api e origin =>
      exact .inr (.inl ⟨e, origin, rfl, .note (.ask answered (.note (.handle (.done _))))⟩)
    | _ => exact .inr (.inr ⟨_, rfl, nofun, .note (.ask answered (.failed _))⟩)
  · exact .inl ⟨post, rfl, .note (.ask answered (.done _))⟩

end Work

/-- A post that a call is answered with has an id. -/
def Named (reply : Except Failure Post) : Prop := ∀ post, reply = .ok post → post.id.getD "" ≠ ""

lemma Store.named_insert (s : Store) (blog : Option String) (draft : Argument) :
    Named (s.insert blog draft).2.2 := by
  intro post answered
  unfold insert at answered
  split at answered
  · cases answered
  · cases answered
  · obtain rfl := Except.ok.inj answered
    simp [createdId]

def Options.draft (o : Options) : Post := Sample.draft (o.title.getD "") (o.content.getD "")

namespace Sample

variable {service : Service} {options : Options} {blog : String} {texts : List String} {o : Outcome}

lemma work_create (mode : options.mode = .createPost) (blog : String) :
    work options blog = .create (some blog) (.post options.draft) := by
  rw [work, Options.arguments, mode]
  rfl

/-- The sample for creating a post ends if the answer to its call does not have to wait. -/
lemma finishes_create (mode : options.mode = .createPost) :
    Finishes service options blog ↔
      (service.serve 0 (some blog) (.insert (.post options.draft))).gate = none := by
  rw [finishes_iff, work_create mode, Work.free_create]

/-- The sample prints its progress and then what its work prints. -/
lemma run_prints (mode : options.mode = .createPost) (titled : options.title.getD "" ≠ "")
    (finishes : Finishes service options blog)
    (h : (Work.create (some blog) (.post options.draft)).Prints "CreatePostTask" (some blog) service
      texts o) :
    (run service options (some blog)).code = exitCode o ∧
      Event.outputs (run service options (some blog)).events = "Creating post...\n" :: texts := by
  have complete : options.complaint? = none := by
    rw [Options.complaint?, mode]
    exact if_neg titled
  have ran := run_eq service options blog
  rw [complete, perform_shows (finishes_iff.mp finishes), showing, work_create mode, mode] at ran
  rw [ran]
  exact ⟨congrArg exitCode h.outcome, congrArg ("Creating post...\n" :: ·) h.outputs⟩

/-- What is printed about the credentials when a call is answered. -/
def advice : Except Failure Post → List String
  | .error (.api e _) => Event.outputs e.hint
  | _ => []

/-- What the sample prints when it ends with an exit code: its progress, what there is to say about
refused credentials, and one dialog, which tells that the answered post was created, or that the
draft was not. The exit code asks for the id of the post in the dialog. -/
structure Concludes (draft : Post) (reply : Except Failure Post) (printed : List String) (n : Nat)
    (dialog : CreateResult) : Prop where
  printed : printed =
    "Creating post...\n" :: advice reply ++ [Display.resultText (.created dialog)]
  answered : (∃ post, reply = .ok post ∧ dialog = .created post) ∨
    (∃ e origin, reply = .error (.api e origin)) ∧ dialog = .refused draft
  code : n = if dialog.post.id.getD "" = "" then 1 else 0

variable {draft : Post} {reply : Except Failure Post} {printed : List String} {n : Nat}
  {dialog : CreateResult}

/-- The exit code agrees with the dialog, unless a post without an id was answered. -/
lemma Concludes.agrees (h : Concludes draft reply printed n dialog) (blank : draft.id = none) :
    (n = 0 ∨ n = 1) ∧ (n = 0 → dialog.title = "Post Created") ∧
      (dialog.title = "Create Failed" → n = 1) ∧
      (((n = 0 ↔ dialog.title = "Post Created") ∧ (n = 1 ↔ dialog.title = "Create Failed")) ↔
        Named reply) := by
  obtain ⟨-, ⟨post, answered, rfl⟩ | ⟨⟨e, origin, refused⟩, rfl⟩, code⟩ := h
  · have named : Named reply ↔ post.id.getD "" ≠ "" := by simp [Named, answered]
    rw [named, code]
    by_cases unnamed : post.id.getD "" = "" <;> simp [CreateResult.created, unnamed]
  · -- a draft has no id
    have one : n = 1 := by rw [code, CreateResult.refused, blank]; rfl
    have named : Named reply := by simp [Named, refused]
    simp [CreateResult.refused, one, named]

/-- The sample ends with an exit code and a dialog, or it fails as the service did. -/
lemma run_concludes (mode : options.mode = .createPost) (titled : options.title.getD "" ≠ "")
    (finishes : Finishes service options blog) :
    let reply := (service.serve 0 (some blog) (.insert (.post options.draft))).reply
    let report := run service options (some blog)
    (∃ n dialog, report.code = .ok n ∧
      Concludes options.draft reply (Event.outputs report.events) n dialog) ∨
    ∃ f, report.code = .error f ∧ reply = .error f ∧ (∀ e origin, f ≠ .api e origin) ∧
      Event.outputs report.events = ["Creating post...\n"] := by
  intro reply report
  obtain ⟨post, answered, prints⟩ | ⟨e, origin, refused, prints⟩ |
      ⟨f, failed, other, prints⟩ :=
    Work.create_prints "CreatePostTask" (some blog) service options.draft
  · obtain ⟨code, printed⟩ := run_prints mode titled finishes prints
    change reply = .ok post at answered
    refine .inl ⟨_, .created post, code, ?_, .inl ⟨post, answered, rfl⟩, rfl⟩
    rw [printed, answered]
    rfl
  · obtain ⟨code, printed⟩ := run_prints mode titled finishes prints
    change reply = .error (.api e origin) at refused
    refine .inl ⟨_, .refused options.draft, code, ?_, .inr ⟨⟨e, origin, refused⟩, rfl⟩, rfl⟩
    rw [printed, refused]
    rfl
  · obtain ⟨code, printed⟩ := run_prints mode titled finishes prints
    exact .inr ⟨f, code, failed, other, printed⟩

/-- **The exit code of the sample for creating a post agrees with its dialog if answered posts have
ids.** Let a post with a title be created. The sample ends if the answer to its one call does not
have to wait. If it ends without an exit code, it fails as the service did, and has printed its
progress and no dialog. If it ends with one, it has printed its progress, then, if the service
refused the credentials, where to look for them, and then one dialog: that the answered post was
created, or that the draft was not. The code is 0 or 1; with 0 the post was created, and if it was
not, the code is 1. That 0 stands for the one dialog and 1 for the other holds just if a post that
is answered has an id, and so for every store. -/
theorem creation_ends (service : Service) (options : Options) (blog : String)
    (mode : options.mode = .createPost) (titled : options.title.getD "" ≠ "") :
    let served := service.serve 0 (some blog) (.insert (.post options.draft))
    let report := run service options (some blog)
    (Finishes service options blog ↔ served.gate = none) ∧
      (Finishes service options blog →
        (∀ f, report.code = .error f → served.reply = .error f ∧
          (∀ e origin, f ≠ .api e origin) ∧ Event.outputs report.events = ["Creating post...\n"]) ∧
        ∀ n, report.code = .ok n → ∃ dialog,
          Concludes options.draft served.reply (Event.outputs report.events) n dialog ∧
          (n = 0 ∨ n = 1) ∧ (n = 0 → dialog.title = "Post Created") ∧
          (dialog.title = "Create Failed" → n = 1) ∧
          (((n = 0 ↔ dialog.title = "Post Created") ∧
            (n = 1 ↔ dialog.title = "Create Failed")) ↔ Named served.reply)) ∧
      ∀ s, service = .store s → Named served.reply := by
  intro served report
  refine ⟨finishes_create mode, fun finishes => ?_, ?_⟩
  · obtain ⟨n, dialog, code, concludes⟩ | ⟨f, code, failed, other, printed⟩ :=
      run_concludes mode titled finishes
    · refine ⟨fun f error => (nomatch code.symm.trans error), fun m ok => ?_⟩
      obtain rfl := Except.ok.inj (code.symm.trans ok)
      exact ⟨dialog, concludes, concludes.agrees rfl⟩
    · refine ⟨fun g error => ?_, fun m ok => (nomatch code.symm.trans ok)⟩
      obtain rfl := Except.error.inj (code.symm.trans error)
      exact ⟨failed, other, printed⟩
  · rintro s rfl
    exact s.named_insert _ _

def titledOptions : Options := ⟨.createPost, none, none, some "T", none, false⟩

def nameless : Service := .client (.unnamed "https://h") [.response ⟨200, [], [0x7B, 0x7D]⟩]

lemma nameless_answers :
    (nameless.serve 0 (some "b") (.insert (.post titledOptions.draft))).reply = .ok .empty := by
  have answered : (Client.unnamed "https://h").answer [.response ⟨200, [], [0x7B, 0x7D]⟩]
      (some "b") (.insert (.post titledOptions.draft)) = ([], _, .ok .empty) :=
    Client.answer_success rfl rfl rfl (by decide) rfl rfl (by decide) rfl rfl
  exact congrArg (·.2.2) answered

/-- The empty post is shown as created, and the exit code is 1. -/
theorem nameless_ends :
    (run nameless titledOptions (some "b")).code = .ok 1 ∧
      Event.outputs (run nameless titledOptions (some "b")).events =
        ["Creating post...\n", "\n[Post Created] postId: None\n\n(untitled)\n"] := by
  obtain ⟨finishes, ends, -⟩ := creation_ends nameless titledOptions "b" rfl (by decide)
  obtain ⟨fails, concludes⟩ := ends (finishes.mpr rfl)
  cases code : (run nameless titledOptions (some "b")).code with
  | error f => cases (fails f code).1.symm.trans nameless_answers
  | ok n =>
    obtain ⟨dialog, concluded, -⟩ := concludes n code
    obtain ⟨post, answered, rfl⟩ | ⟨⟨e, origin, refused⟩, -⟩ := concluded.answered
    · obtain rfl := Except.ok.inj (answered.symm.trans nameless_answers)
      have printed := concluded.printed
      rw [nameless_answers] at printed
      exact ⟨congrArg Except.ok concluded.code, printed⟩
    · cases refused.symm.trans nameless_answers

/-- The exit code does not always agree with the dialog. -/
theorem nameless_disagrees :
    ¬ ∀ (service : Service) (options : Options) (blog : String) (n : Nat) (before : List String)
        (dialog : CreateResult), options.mode = .createPost → options.title.getD "" ≠ "" →
        Finishes service options blog → (run service options (some blog)).code = .ok n →
        Event.outputs (run service options (some blog)).events =
          before ++ [Display.resultText (.created dialog)] →
        (n = 0 ↔ dialog.title = "Post Created") := by
  intro agrees
  have finishes : Finishes nameless titledOptions "b" := (finishes_create rfl).mpr rfl
  obtain ⟨n, dialog, code, concluded⟩ | ⟨f, -, failed, -⟩ := run_concludes rfl (by decide) finishes
  · obtain ⟨post, answered, rfl⟩ | ⟨⟨e, origin, refused⟩, -⟩ := concluded.answered
    · obtain rfl := Except.ok.inj (answered.symm.trans nameless_answers)
      have agree := agrees nameless titledOptions "b" n _ _ rfl (by decide) finishes code
        concluded.printed
      rw [concluded.code] at agree
      exact absurd (agree.mpr rfl) Nat.one_ne_zero
    · cases refused.symm.trans nameless_answers
  · cases failed.symm.trans nameless_answers

end Sample

end BlogConsole
