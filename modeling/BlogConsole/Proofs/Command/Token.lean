import BlogConsole.Proofs.Command.Likeness
import BlogConsole.Proofs.Settings.Variation

/-!
The access token is not disclosed.

The token reaches the service in a header of each request, and it goes nowhere else: what comes back
is read without it. So two runs that have different tokens differ in this header alone.
-/

namespace BlogConsole

/-- A request bears a token, and another one bears another token and is the same otherwise. -/
def Request.Bears (t t' : String) (q q' : Request) : Prop :=
  q.authorization = some ("Bearer " ++ t) ∧ q' = { q with authorization := some ("Bearer " ++ t') }

/-- Runs that differ in the token of their requests. -/
def Likeness.ofTokens (t t' : String) : Likeness where
  request := Request.Bears t t'
  wording _ _ := False
  target _ _ := False
  trace _ _ := False
  spoils _ := False
  spoils_other := nofun

variable {t t' : String}

lemma Likeness.strict_ofTokens : (ofTokens t t').Strict :=
  ⟨fun _ _ => id, fun _ _ => id, fun _ _ => id⟩

lemma Client.alike_ofTokens {c : Client} (base : Url.userOf c.baseUrl.toList = [])
    (replies : Transport) :
    Alike (.ofTokens t t') replies
      { c with accessToken := t, session := some ⟨some ("Bearer " ++ t)⟩ }
      { c with accessToken := t', session := some ⟨some ("Bearer " ++ t')⟩ } := by
  refine alike_of_requests rfl rfl fun blog call => ?_
  cases url : c.url blog call with
  | error f => exact .inl ⟨f, url, url⟩
  | ok u =>
    exact .inr (.inl ⟨_, _, request_bearing base url, request_bearing base url, ⟨rfl, rfl⟩,
      fun _ _ => receives_same rfl⟩)

namespace Command

variable {environment environment' : Environment} {file : Option String}

lemma alike_ofTokens {s s' : Settings} (token : s.accessToken = t) (token' : s'.accessToken = t')
    (same : ∀ other, other ≠ .accessToken → ∃ c, s.Holds other c ∧ s'.Holds other c)
    (filled : t ≠ "") (filled' : t' ≠ "") (ascii : Text.Ascii t.toList)
    (ascii' : Text.Ascii t'.toList) (base : Url.userOf (clientOf s).baseUrl.toList = [])
    (replies : Transport) : Alike (.ofTokens t t') replies s s' := by
  obtain ⟨-, apiKey, blogId, baseUrl, timeout, useMock, logLevel⟩ := Settings.fields_eq same
  have opened {s : Settings} {t : String} (token : s.accessToken = t) (filled : t ≠ "")
      (ascii : Text.Ascii t.toList) : (clientOf s).opened =
        .ok { clientOf s with accessToken := t, session := some ⟨some ("Bearer " ++ t)⟩ } := by
    have credential : Client.credential t = .ok (some ("Bearer " ++ t)) :=
      Client.credential_ok.mpr ⟨ascii, (if_neg filled).symm⟩
    subst token
    rw [Client.opened]
    change (Client.credential s.accessToken).map _ = _
    rw [credential]
    rfl
  constructor
  case blogId => exact blogId (by decide)
  case useMock => exact useMock (by decide)
  case logLevel => exact logLevel (by decide)
  case opened =>
    have other : { clientOf s' with
          accessToken := t', session := some ⟨some ("Bearer " ++ t')⟩ } =
        { clientOf s with accessToken := t', session := some ⟨some ("Bearer " ++ t')⟩ } := by
      simp only [clientOf, Client.new, apiKey (by decide), baseUrl (by decide), timeout (by decide)]
    refine .inr ⟨_, _, opened token filled ascii, opened token' filled' ascii', ?_⟩
    rw [other]
    exact Client.alike_ofTokens base replies

/-- **The access token is not disclosed.** Let two environments differ in the access token alone,
and let no value of the environment file refer to it, if there is a file; let both tokens be ASCII
and not empty, and let the base URL have no user information, which would take the place of the
token. For all arguments and all replies, the runs in these environments end
in the same way, complain of the same, have the same level of the log, note the same and print the
same. They send the same requests, but that every request of a run bears the token of that run. -/
theorem token_undisclosed (varies : Settings.Varies .accessToken environment environment')
    (unreferred : Settings.Unreferred .accessToken file)
    (token : Settings.find? environment (Settings.fileVariables environment file) .accessToken =
      some t)
    (token' : Settings.find? environment' (Settings.fileVariables environment' file) .accessToken =
      some t')
    (filled : t ≠ "") (filled' : t' ≠ "") (ascii : Text.Ascii t.toList)
    (ascii' : Text.Ascii t'.toList)
    (base : ∀ s, Settings.load environment file = .valid s →
      Url.userOf (clientOf s).baseUrl.toList = [])
    (args : List String) (clock : Timestamp) (replies : Transport) :
    let report := run args environment file clock replies
    let report' := run args environment' file clock replies
    report.ending = report'.ending ∧ report.complaint = report'.complaint ∧
      report.level = report'.level ∧
      Event.notices report.events = Event.notices report'.events ∧
      Event.printed report.events = Event.printed report'.events ∧
      List.Forall₂ (Request.Bears t t') (Event.requests report.events)
        (Event.requests report'.events) := by
  have alike : (run args environment file clock replies).Like (.ofTokens t t')
      (run args environment' file clock replies) := by
    refine run_like (varies.lookup (by decide)) ?_ nofun nofun
    obtain invalid | ⟨s, s', valid, valid', holds, holds', same⟩ :=
      Settings.load_varies varies unreferred rfl
    · exact .inl invalid
    · rw [token] at holds
      rw [token'] at holds'
      exact .inr ⟨s, s', valid, valid', alike_ofTokens (Checked.valid.inj holds).symm
        (Checked.valid.inj holds').symm same filled filled' ascii ascii' (base s valid) replies⟩
  exact ⟨alike.ending, alike.complaint, alike.level,
    Likeness.strict_ofTokens.notices alike.events, Likeness.strict_ofTokens.printed alike.events,
    Event.requests_like alike.events⟩

def bearing (t : String) : Environment := [("BLOGGER_ACCESS_TOKEN", t), ("BLOGGER_BLOG_ID", "b")]

def showArguments : List String := ["show", "--post-id", "p"]

def unauthorized : Reply := .response ⟨401, [], []⟩

/-- What is printed about the refusal does not show the token of the request. -/
theorem unauthorized_undisclosed :
    Event.printed
        (run showArguments (bearing "early") none Store.threePosts.clock [unauthorized]).events =
      Event.printed
        (run showArguments (bearing "late") none Store.threePosts.clock [unauthorized]).events ∧
    (Event.requests (run showArguments (bearing "late") none Store.threePosts.clock
      [unauthorized]).events).map (·.authorization) = [some "Bearer late"] := by
  have loaded : Settings.load (bearing "early") none =
      .valid ⟨"early", "", "b", Client.defaultBaseUrl, Client.defaultTimeout, false, .info⟩ := by
    decide +kernel
  have varies : Settings.Varies .accessToken (bearing "early") (bearing "late") :=
    .cons ⟨rfl, fun other => absurd (by decide) other⟩ (.cons ⟨rfl, fun _ => rfl⟩ .nil)
  have base (s : Settings) (valid : Settings.load (bearing "early") none = .valid s) :
      Url.userOf (clientOf s).baseUrl.toList = [] := by
    cases loaded.symm.trans valid
    decide +kernel
  have token : Settings.find? (bearing "early") [] .accessToken = some "early" := by
    decide +kernel
  have token' : Settings.find? (bearing "late") [] .accessToken = some "late" := by
    decide +kernel
  obtain ⟨-, -, -, -, printed, -⟩ := token_undisclosed varies (Settings.unreferred_none _) token
    token' (by decide) (by decide) (by decide) (by decide) base showArguments
    Store.threePosts.clock [unauthorized]
  exact ⟨printed, by decide +kernel⟩

end Command

end BlogConsole
