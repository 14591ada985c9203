import BlogConsole.Proofs.Loop.Agreement
import BlogConsole.Proofs.Loop.Served

/-!
Creating a post, from its start to the report of what came of it.

The draft is sent once. A post that comes back is reported as created; an error of the service is
handed to the handler, and whatever the handler makes of it, the draft is reported as it was; any
other failure ends the task without a report.
-/

namespace BlogConsole

open Entry

namespace Creation

/-- What a task for creating a post does with an error, between its call and its end. -/
def dealing (handler : Handler) : Except Failure Post → List Deed
  | .error (.api e _) => .note (.createFailed e) :: handler.deeds e
  | _ => []

/-- What a task for creating a post comes to when its call is answered. -/
def result (draft : Post) : Except Failure Post → Except Failure Result
  | .ok post => .ok (.created ⟨post, "Post Created", "postId: " ++ Display.orNone post.id⟩)
  | .error (.api ..) => .ok (.created ⟨draft, "Create Failed", "Please Retry"⟩)
  | .error f => .error f

variable {u : Setup} {draft : Post} {ds : List Deed} {v : Except Failure Result}

/-- The work makes one call, for its draft, and its answer decides the rest. -/
lemma comes_create (h : (Work.create u.blog (.post draft)).Comes u ds v) :
    ∃ reply : Except Failure Post,
      ds = [.note (.insertStarted u.blog), .ask u.blog (.insert (.post draft)) reply] ++
        dealing u.handler reply ∧
      v = result draft reply := by
  unfold Work.create at h
  cases h with
  | note asked =>
    cases asked with
    | ask reply rest =>
      refine ⟨reply, ?_⟩
      rcases reply with f | post
      · cases f with
        | api e =>
          cases rest with
          | note handled =>
            cases handled with
            | handle finished =>
              cases finished
              exact ⟨by simp [dealing], rfl⟩
        | _ => cases rest; exact ⟨rfl, rfl⟩
      · cases rest
        exact ⟨rfl, rfl⟩

lemma filter_dealing (handler : Handler) (reply : Except Failure Post) :
    (dealing handler reply).filter (·.isAsk) = [] := by
  unfold dealing
  split
  · exact handler.filter_deeds _
  · rfl

end Creation

namespace Loop

/-- **Creating a post reports what came of it, whatever the handler does.** A task for creating a
post that ends, and is not cancelled, makes one call, for its blog and with its draft as it is. If
a post is answered, it reports this post as created, with its id, and no handler is called. If an
error of the service is answered, the error is handed to the handler once, if there is one, before
anything is reported; a handler that fails is noted; and the draft is reported as it was, whatever
the handler did. If anything else is answered, the task fails with it, without a report and without
the handler. Nothing else is done, and every deed shows in its one way. The task does end when it
runs, unless it is stopped, and does not have to wait at open gates. -/
theorem creation_reports (service : Service) (setups : List Setup) (ss : List Step) {i : Nat}
    (hi : i < setups.length) (hk : setups[i].kind = .create) {draft : Post}
    (ha : Accepted service setups ss i [.post draft]) :
    let own := (after service setups ss).own i
    (∀ o, (after service setups ss).outcome? i = some o → o ≠ .cancelled →
      ∃ s, service.Leads s ∧
        let served := s.serve i setups[i].blog (.insert (.post draft))
        deeds own =
          [.start "Creating post...", .note (.insertStarted setups[i].blog),
            .ask setups[i].blog (.insert (.post draft)) served.reply] ++
          Creation.dealing setups[i].handler served.reply ++
          Deed.ending "CreatePostTask" (Creation.result draft served.reply) ∧
        o = setups[i].outcome (Creation.result draft served.reply) ∧
        (∀ e ∈ own, e.Shows setups[i] i) ∧
        ∃ e, Entry.asks own = [e] ∧ e.events = served.events) ∧
    ((∀ gate, service.Gated gate → (after service setups ss).isOpen gate = true) →
      (after service setups (ss ++ [.run])).Done i) ∧
    (.cancel i ∉ ss → (after service setups ss).outcome? i ≠ some .cancelled) := by
  refine ⟨fun o ho hne => ?_, (ha.run_rests hi).2, after_uncancelled⟩
  obtain ⟨ds, v, comes, own, outcome⟩ := ha.comes hi ho hne
  rw [hk] at comes own
  obtain ⟨reply, rfl, rfl⟩ := Creation.comes_create comes
  have told := own_shows service ss hi
  have once : (deeds ((after service setups ss).own i)).filter (·.isAsk) =
      [.ask setups[i].blog (.insert (.post draft)) reply] := by
    rw [own, List.filter_append, Deed.filter_ending, List.append_nil,
      List.filter_cons_of_neg Bool.false_ne_true, List.filter_append, Creation.filter_dealing]
    rfl
  obtain ⟨s, leads, rfl, e, asked, shown, -⟩ :=
    served_once told (own_served service setups ss i) once
  exact ⟨s, leads, own, outcome, told, e, asked, shown⟩

def refusing (e : ApiError) : Service := .script fun _ => ⟨none, fun c => c.fail (.api e none)⟩

lemma eq_of_refusing {e : ApiError} {s : Service} (h : (refusing e).Leads s) : s = refusing e :=
  h.keeps (P := (· = refusing e)) (by rintro _ i blog c rfl; rfl) rfl

def forbidden : ApiError := ⟨true, .string "Forbidden", some 403, .null⟩

def brokenHandler : Setup :=
  ⟨.create, some "b", .custom fun _ => some (.thrown "ValueError" "broke"), .console⟩

/-- A draft with a title, labels and an author. -/
def rainDraft : Post :=
  { Post.empty with
    title := some "Regen"
    labels := some ["a", "b"]
    author := some ⟨none, some "Ada", none⟩ }

/-- The draft comes back although the handler fails. -/
theorem broken_handler_noted :
    let r : Result := .created ⟨rainDraft, "Create Failed", "Please Retry"⟩
    deeds ((after (refusing forbidden) [brokenHandler]
        [.execute 0 [.post rainDraft], .run]).own 0) =
      [.start "Creating post...", .note (.insertStarted (some "b")),
        .ask (some "b") (.insert (.post rainDraft)) (.error (.api forbidden none)),
        .note (.createFailed forbidden), .handle forbidden,
        .note (.handlerFailed (.thrown "ValueError" "broke")), .returned r, .complete r] := by
  intro r
  have ungated (gate : String) : ¬ (refusing forbidden).Gated gate := by
    rintro ⟨n, h⟩
    cases h
  obtain ⟨-, ends, -⟩ := creation_reports (refusing forbidden) [brokenHandler]
    [.execute 0 [.post rainDraft]] Nat.one_pos rfl ⟨[], [], rfl, rfl⟩
  obtain ⟨⟨o, ended⟩, -⟩ := ends fun gate h => absurd h (ungated gate)
  obtain ⟨reported, -, uncancelled⟩ := creation_reports (refusing forbidden) [brokenHandler]
    [.execute 0 [.post rainDraft], .run] Nat.one_pos rfl ⟨[], [.run], rfl, rfl⟩
  have unstopped : .cancel 0 ∉ [Step.execute 0 [.post rainDraft], .run] := by simp
  obtain ⟨s, leads, own, -⟩ :=
    reported o ended fun h => uncancelled unstopped (ended.trans (congrArg some h))
  cases eq_of_refusing leads
  exact own

end Loop

end BlogConsole
