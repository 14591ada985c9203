import BlogConsole.Proofs.Command.Isolation
import BlogConsole.Proofs.Task.Likeness

/-!
Runs of the program that are alike.

If two settings lead to clients that answer alike, the runs with these settings are alike: they end
in the same way, and their events are alike, one by one. If only requests may differ, then the same
is noted and printed.
-/

namespace BlogConsole

variable {L : Likeness}

/-! ### Samples -/

namespace Sample

lemma exitCode_like {o o' : Outcome} (h : o.Like L o') : L.Agree (exitCode o) (exitCode o') := by
  cases h with
  | failure hf => exact .error hf
  | result hr =>
    cases hr with
    | same r => rw [exitCode_result]; exact .ok _
    | title => exact .ok _

structure Report.Like (L : Likeness) (r r' : Report) : Prop where
  code : L.Agree r.code r'.code
  events : List.Forall₂ (Event.Like L) r.events r'.events

variable {c c' : Client} {replies : Transport} {options : Options} {blog : String}

lemma run_like (clients : c.Alike L replies c')
    (spared : ∀ f, L.spoils f →
      (run (.client c replies) options (some blog)).code ≠ .error f)
    (spared' : ∀ f, L.spoils f →
      (run (.client c' replies) options (some blog)).code ≠ .error f) :
    (run (.client c replies) options (some blog)).Like L
      (run (.client c' replies) options (some blog)) := by
  rw [run_shows (Service.client_ungated c replies)] at spared ⊢
  rw [run_shows (Service.client_ungated c' replies)] at spared' ⊢
  cases complaint : options.complaint? with
  | some text => exact ⟨.ok 2, Event.forall₂_same rfl⟩
  | none =>
    rw [complaint] at spared spared'
    obtain ⟨events, outcome⟩ := (Work.ofKind_like (some blog) options.mode.kind
      options.arguments).shows clients (List.Subset.refl replies)
      (fun f hf ends => spared f hf (congrArg exitCode ends))
      (fun f hf ends => spared' f hf (congrArg exitCode ends))
    exact ⟨exitCode_like outcome, .cons (.same nofun) events⟩

end Sample

/-! ### Runs -/

lemma Notice.Like.level {n n' : Notice} (h : n.Like L n') : n.level = n'.level := by
  cases h <;> rfl

namespace Command

lemma isLogged_like {level : LogLevel} {e e' : Event} (h : e.Like L e') :
    isLogged level e = isLogged level e' := by
  cases h with
  | same | request | result => rfl
  | notice hn => simp only [isLogged, hn.level]

def clientOf (settings : Settings) : Client :=
  Client.new settings.accessToken settings.apiKey settings.baseUrl settings.timeout

/-- Settings that differ in what their clients are made of, and these answer alike once they are
open. -/
structure Alike (L : Likeness) (replies : Transport) (s s' : Settings) : Prop where
  blogId : s'.blogId = s.blogId
  useMock : s'.useMock = s.useMock
  logLevel : s'.logLevel = s.logLevel
  opened : (∃ f, (clientOf s).opened = .error f ∧ (clientOf s').opened = .error f) ∨
    ∃ c c', (clientOf s).opened = .ok c ∧ (clientOf s').opened = .ok c' ∧ c.Alike L replies c'

variable {options : Options} {s s' : Settings} {clock : Timestamp} {replies : Transport}

lemma runReal_shut {blog : String} {f : Failure} (shut : (clientOf s).opened = .error f) :
    runReal options s blog replies = ⟨.error f, []⟩ := by
  unfold clientOf at shut
  rw [runReal, shut]

lemma runReal_opened {blog : String} {c : Client} (ok : (clientOf s).opened = .ok c) :
    runReal options s blog replies = Sample.run (.client c replies) options (some blog) := by
  unfold clientOf at ok
  rw [runReal, ok]

lemma runReal_like {blog : String} (h : Alike L replies s s')
    (spared : ∀ f, L.spoils f → (runReal options s blog replies).code ≠ .error f)
    (spared' : ∀ f, L.spoils f → (runReal options s' blog replies).code ≠ .error f) :
    (runReal options s blog replies).Like L (runReal options s' blog replies) := by
  obtain ⟨f, shut, shut'⟩ | ⟨c, c', ok, ok', clients⟩ := h.opened
  · rw [runReal_shut shut, runReal_shut shut']
    exact ⟨.error (.same f), .nil⟩
  · rw [runReal_opened ok] at spared ⊢
    rw [runReal_opened ok'] at spared' ⊢
    exact Sample.run_like clients spared spared'

lemma perform_real (off : (options.mock || s.useMock) = false) (clock : Timestamp)
    (replies : Transport) :
    perform options s clock replies =
      if blogOf options s false = "" then (1, [.notice .blogMissing])
      else concluded (runReal options s (blogOf options s false) replies) := by
  unfold perform
  rw [off]
  rfl

lemma code_ne_error {report : Sample.Report} {f : Failure}
    (h : .notice (.unexpected f) ∉ (concluded report).2) : report.code ≠ .error f := by
  intro code
  rw [concluded, code] at h
  exact h (List.mem_append_right _ (List.mem_singleton_self _))

lemma concluded_like {r r' : Sample.Report} (h : r.Like L r') :
    (concluded r).1 = (concluded r').1 ∧
      List.Forall₂ (Event.Like L) (concluded r).2 (concluded r').2 := by
  obtain ⟨code, events⟩ := h
  unfold concluded
  generalize r.code = x at code ⊢
  generalize r'.code = x' at code ⊢
  cases code with
  | ok n => exact ⟨rfl, events⟩
  | error hf => exact ⟨rfl, List.rel_append events (.cons (.notice (.unexpected hf)) .nil)⟩

lemma perform_like (h : Alike L replies s s')
    (spared : ∀ f, L.spoils f →
      .notice (.unexpected f) ∉ (perform options s clock replies).2)
    (spared' : ∀ f, L.spoils f →
      .notice (.unexpected f) ∉ (perform options s' clock replies).2) :
    (perform options s clock replies).1 = (perform options s' clock replies).1 ∧
      List.Forall₂ (Event.Like L) (perform options s clock replies).2
        (perform options s' clock replies).2 := by
  have named (mock : Bool) : blogOf options s' mock = blogOf options s mock := by
    rw [blogOf, blogOf, h.blogId]
  cases on : options.mock || s.useMock with
  | true =>
    have on' : (options.mock || s'.useMock) = true := by rw [h.useMock, on]
    have same : perform options s' clock replies = perform options s clock replies := by
      rw [perform_mock on, perform_mock on', named]
    rw [same]
    exact ⟨rfl, Event.forall₂_same (perform_mock_events on clock replies).1⟩
  | false =>
    have off' : (options.mock || s'.useMock) = false := by rw [h.useMock, on]
    rw [perform_real on] at spared ⊢
    rw [perform_real off', named] at spared' ⊢
    split
    · exact ⟨rfl, Event.forall₂_same rfl⟩
    · next named =>
      rw [if_neg named] at spared spared'
      refine concluded_like (runReal_like h ?_ ?_)
      · exact fun f hf => code_ne_error (spared f hf)
      · exact fun f hf => code_ne_error (spared' f hf)

/-- Reports that are alike: only the events of the runs may differ. -/
structure Report.Like (L : Likeness) (r r' : Report) : Prop where
  ending : r.ending = r'.ending
  complaint : r.complaint = r'.complaint
  level : r.level = r'.level
  events : List.Forall₂ (Event.Like L) r.events r'.events

variable {args : List String} {environment environment' : Environment} {file : Option String}

lemma logged_like {level : LogLevel} {es es' : List Event}
    (h : List.Forall₂ (Event.Like L) es es') :
    List.Forall₂ (Event.Like L) (es.filter (isLogged level)) (es'.filter (isLogged level)) :=
  List.rel_filter (fun _ _ he => iff_of_eq (congrArg (· = true) (isLogged_like he))) h

/-- **Runs are alike if their settings are**, and their terminals are of the same width. -/
theorem run_like
    (width : environment'.lookup "COLUMNS" = environment.lookup "COLUMNS")
    (loaded : (∃ ps, Settings.load environment file = .invalid ps ∧
        Settings.load environment' file = .invalid ps) ∨
      ∃ s s', Settings.load environment file = .valid s ∧
        Settings.load environment' file = .valid s' ∧ Alike L replies s s')
    (spared : ∀ f, L.spoils f →
      .notice (.unexpected f) ∉ (run args environment file clock replies).events)
    (spared' : ∀ f, L.spoils f →
      .notice (.unexpected f) ∉ (run args environment' file clock replies).events) :
    (run args environment file clock replies).Like L
      (run args environment' file clock replies) := by
  cases parsed : Arguments.parse args with
  | error stop =>
    have same : run args environment' file clock replies =
        run args environment file clock replies := by
      unfold run
      rw [parsed, width]
      cases stop <;> rfl
    have silent : Event.requests (run args environment file clock replies).events = [] := by
      unfold run
      rw [parsed]
      cases stop <;> rfl
    rw [same]
    exact ⟨rfl, rfl, rfl, Event.forall₂_same silent⟩
  | ok options =>
    obtain ⟨ps, invalid, invalid'⟩ | ⟨s, s', valid, valid', alike⟩ := loaded
    · unfold run
      rw [parsed, invalid, invalid']
      exact ⟨rfl, rfl, rfl, Event.forall₂_same rfl⟩
    · rw [run_eq parsed valid] at spared ⊢
      rw [run_eq parsed valid', alike.logLevel] at spared' ⊢
      -- a failure is logged at every level
      have shown {es : List Event} {f : Failure}
          (h : .notice (.unexpected f) ∉ es.filter (isLogged s.logLevel)) :
          .notice (.unexpected f) ∉ es := by
        refine fun mem => h (List.mem_filter.mpr ⟨mem, ?_⟩)
        cases s.logLevel <;> rfl
      obtain ⟨code, events⟩ := perform_like alike (fun f hf => shown (spared f hf))
        fun f hf => shown (spared' f hf)
      exact ⟨congrArg Ending.code code, rfl, rfl, logged_like events⟩

end Command

/-! ### Strictness -/

/-- Only requests may differ. -/
structure Likeness.Strict (L : Likeness) : Prop where
  wording : ∀ v v', ¬ L.wording v v'
  target : ∀ u u', ¬ L.target u u'
  trace : ∀ ws ws', ¬ L.trace ws ws'

namespace Likeness.Strict

variable (strict : L.Strict)
include strict

lemma error {e e' : ApiError} (h : e.Like L e') : e = e' := by
  cases h with
  | same => rfl
  | reworded h => exact absurd h (strict.wording _ _)

lemma failure {f f' : Failure} (h : f.Like L f') : f = f' := by
  cases h with
  | same => rfl
  | withoutScheme h => exact absurd h (strict.target _ _)
  | during _ h => exact absurd h (strict.trace _ _)

lemma notice {n n' : Notice} (h : n.Like L n') : n = n' := by
  cases h with
  | same => rfl
  | errorReply h => exact absurd h (strict.wording _ _)
  | createFailed he | loadFailed he | listFailed he => rw [strict.error he]
  | taskFailed hf | unexpected hf => rw [strict.failure hf]

lemma result {r r' : Result} (h : r.Like L r') : r = r' := by
  cases h with
  | same => rfl
  | title h => exact absurd h (strict.wording _ _)

lemma event {e e' : Event} (h : e.Like L e') :
    e = e' ∨ ∃ q q', e = .request q ∧ e' = .request q' := by
  cases h with
  | same => exact .inl rfl
  | request => exact .inr ⟨_, _, rfl, rfl⟩
  | notice hn => exact .inl (by rw [strict.notice hn])
  | result hr => exact .inl (by rw [strict.result hr])

lemma filterMap {α : Type} {seen : Event → Option α} (unsent : ∀ q, seen (.request q) = none)
    {es es' : List Event} (h : List.Forall₂ (Event.Like L) es es') :
    es.filterMap seen = es'.filterMap seen := by
  induction h with
  | nil => rfl
  | @cons e e' _ _ he _ ih =>
    have first : seen e = seen e' := by
      obtain rfl | ⟨q, q', rfl, rfl⟩ := strict.event he
      · rfl
      · rw [unsent, unsent]
    rw [List.filterMap_cons, List.filterMap_cons, first, ih]

lemma notices {es es' : List Event} (h : List.Forall₂ (Event.Like L) es es') :
    Event.notices es = Event.notices es' := strict.filterMap (fun _ => rfl) h

lemma printed {es es' : List Event} (h : List.Forall₂ (Event.Like L) es es') :
    Event.printed es = Event.printed es' :=
  congrArg String.join (strict.filterMap (fun _ => rfl) h)

end Likeness.Strict

lemma Event.requests_like {es es' : List Event} (h : List.Forall₂ (Event.Like L) es es') :
    List.Forall₂ L.request (requests es) (requests es') := by
  induction h with
  | nil => exact .nil
  | @cons e e' _ _ he _ ih =>
    cases he with
    | request hq => exact .cons hq ih
    | notice | result => exact ih
    | same other =>
      cases e with
      | request q => exact absurd rfl (other q)
      | _ => exact ih

end BlogConsole
