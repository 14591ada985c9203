import BlogConsole.Proofs.Client.Restyling
import BlogConsole.Task.Loop

/-!
Tasks on replies that differ in style.

A task goes the same way on such replies, because its calls are answered alike. It could tell the
styles apart only by what a rejected value was rejected for, but then its work fails at once.
-/

namespace BlogConsole

open Json

/-- The role of what a task of a kind reads from replies. -/
inductive Kind.Reads : Kind → Role → Prop
  | create : Reads .create .post
  | load : Reads .load .post
  | list (maxPages : Int) : Reads (.list maxPages) .page

/-! ### What is the same but for style -/

/-- Outcomes that are the same but for the names in a rejection. -/
inductive Outcome.Restyled : Outcome → Outcome → Prop
  | same (o : Outcome) : Restyled o o
  | failure {f f' : Failure} : f.Restyled f' → Restyled (.failure f) (.failure f')

inductive Event.Restyled : Event → Event → Prop
  | same (e : Event) : Restyled e e
  | taskFailed {name : String} {f f' : Failure} : f.Restyled f' →
      Restyled (.notice (.taskFailed name f)) (.notice (.taskFailed name f'))

inductive Deed.Restyled : Deed → Deed → Prop
  | same (d : Deed) : Restyled d d
  | ask {blog : Option String} {call : Call} {answer answer' : call.Reply} :
      Failure.Agree answer answer' → Restyled (.ask blog call answer) (.ask blog call answer')
  | raised {f f' : Failure} : f.Restyled f' → Restyled (.raised f) (.raised f')
  | taskFailed {name : String} {f f' : Failure} : f.Restyled f' →
      Restyled (.note (.taskFailed name f)) (.note (.taskFailed name f'))

structure Entry.Restyled (e e' : Entry) : Prop where
  status : e'.status = e.status
  deed : e.deed.Restyled e'.deed
  events : List.Forall₂ Event.Restyled e.events e'.events

namespace Entry

lemma forall₂_same (es : List Entry) : List.Forall₂ Restyled es es :=
  List.forall₂_same.mpr fun _ _ =>
    ⟨rfl, .same _, List.forall₂_same.mpr fun event _ => .same event⟩

lemma restyled_ask (t : Task) {call : Call} {answer answer' : call.Reply}
    (h : Failure.Agree answer answer') (events : List Event) :
    (t.did (.ask t.blog call answer) events).Restyled
      (t.did (.ask t.blog call answer') events) :=
  ⟨rfl, .ask h, List.forall₂_same.mpr fun event _ => .same event⟩

lemma restyled_raising (t : Task) {f f' : Failure} (h : f.Restyled f') :
    List.Forall₂ Restyled (t.raising f) (t.raising f') :=
  .cons ⟨rfl, .raised h, .nil⟩ (.cons ⟨rfl, .taskFailed h, .cons (.taskFailed h) .nil⟩ .nil)

end Entry

/-- Replies to be given that differ in the style of what is read from them. -/
def Transport.Restyled (reads : Role → Prop) (tr tr' : Transport) : Prop :=
  List.Forall₂ (fun reply reply' => ∀ role, reads role → Reply.Restyled role reply reply') tr tr'

/-- The client is the same, with such replies. -/
inductive Service.Restyled (reads : Role → Prop) (c : Client) : Service → Service → Prop
  | client {tr tr' : Transport} : Transport.Restyled reads tr tr' →
      Restyled reads c (.client c tr) (.client c tr')

/-! ### Work -/

/-- Work that reads some values only, and fails at once with what they are rejected for. -/
inductive Work.Yields (reads : Role → Prop) : Work → Prop
  | done (r : Result) : Yields reads (.done r)
  | failed (f : Failure) : Yields reads (.failed f)
  | note {n : Notice} {next : Work} : Yields reads next → Yields reads (.note n next)
  | handle {e : ApiError} {next : Work} : Yields reads next → Yields reads (.handle e next)
  | ask {call : Call} {next : call.Reply → Work} :
      reads call.role → (∀ ps, next (.error (.badRecord ps)) = .failed (.badRecord ps)) →
      (∀ answer, Yields reads (next answer)) → Yields reads (.ask call next)

namespace Work

variable {reads : Role → Prop}

lemma create_yields (h : reads .post) (blog : Option String) (draft : Argument) :
    (create blog draft).Yields reads := by
  refine .note (.ask h (fun _ => rfl) fun answer => ?_)
  split
  · exact .done _
  · refine .note (.handle ?_)
    split
    · exact .done _
    · exact .failed _
  · exact .failed _

lemma load_yields (h : reads .post) (id : Argument) : (load id).Yields reads := by
  refine .ask h (fun _ => rfl) fun answer => ?_
  split
  · exact .done _
  · refine .note ?_
    unfold placeholder
    split
    · exact .done _
    · exact .failed _
  · exact .failed _

lemma gather_yields (h : reads .page) (left before : Nat) (token : Option String)
    (gathered : List Post) : (gather left before token gathered).Yields reads := by
  induction left generalizing before token gathered with
  | zero =>
    unfold gather
    refine .ask h (fun _ => rfl) fun answer => ?_
    split
    · split
      · exact .done _
      · exact .note (.done _)
    · exact .note (.done _)
    · exact .failed _
  | succ left ih =>
    unfold gather
    refine .ask h (fun _ => rfl) fun answer => ?_
    split
    · split
      · exact .done _
      · refine .note ?_
        dsimp only
        split
        · exact .done _
        · exact ih _ _ _
    · exact .note (.done _)
    · exact .failed _

lemma ofKind_yields {kind : Kind} (h : ∀ role, kind.Reads role → reads role)
    (blog : Option String) (args : List Argument) : (ofKind blog kind args).Yields reads := by
  unfold ofKind
  split
  · exact create_yields (h _ .create) _ _
  · exact load_yields (h _ .load) _
  · exact gather_yields (h _ (.list _)) _ _ _ _
  all_goals exact .failed _

end Work

/-! ### Tasks -/

/-- Stages that are the same but for the names in a rejection. The work that is still to be done is
the same. -/
inductive Stage.Restyled (reads : Role → Prop) : Stage → Stage → Prop
  | idle : Restyled reads .idle .idle
  | abandoned : Restyled reads .abandoned .abandoned
  | ready (begun : Bool) {w : Work} : w.Yields reads →
      Restyled reads (.ready begun w) (.ready begun w)
  | waiting (gate : String) {w : Work} : w.Yields reads →
      Restyled reads (.waiting gate w) (.waiting gate w)
  | ended {o o' : Outcome} : o.Restyled o' → Restyled reads (.ended o) (.ended o')

/-- Tasks that are the same but for the names in a rejection. -/
inductive Task.Restyled (reads : Role → Prop) : Task → Task → Prop
  | mk (t : Task) {stage stage' : Stage} : (∀ role, t.kind.Reads role → reads role) →
      Stage.Restyled reads stage stage' → Restyled reads (t.atStage stage) (t.atStage stage')

/-- Work that came to the same, but for the names in a rejection. -/
structure Task.Progress.Restyled (reads : Role → Prop) (c : Client) (p p' : Task.Progress) :
    Prop where
  service : p.service.Restyled reads c p'.service
  record : List.Forall₂ Entry.Restyled p.record p'.record
  task : p.task.Restyled reads p'.task

namespace Task

variable {reads : Role → Prop} {c : Client} {s s' : Service} {t t' : Task} {i : Nat}
  {isOpen : String → Bool}

lemma Progress.Restyled.after {p p' : Progress} (h : p.Restyled reads c p') {es es' : List Entry}
    (hes : List.Forall₂ Entry.Restyled es es') : (p.after es).Restyled reads c (p'.after es') :=
  ⟨h.service, List.rel_append hes h.record, h.task⟩

/-- **Work comes to the same.** -/
lemma advance_restyled (hk : ∀ role, t.kind.Reads role → reads role) {w : Work}
    (hw : w.Yields reads) (hs : s.Restyled reads c s') :
    (t.advance i isOpen w s).Restyled reads c (t.advance i isOpen w s') := by
  induction hw generalizing s s' with
  | done r =>
    exact ⟨hs, Entry.forall₂_same _, .mk (t.inStatus .finished) hk (.ended (.same _))⟩
  | failed f =>
    exact ⟨hs, Entry.forall₂_same _, .mk (t.inStatus .finished) hk (.ended (.same _))⟩
  | note _ ih => exact (ih hs).after (Entry.forall₂_same _)
  | handle _ ih => exact (ih hs).after (Entry.forall₂_same _)
  | @ask call next hcall rejected _ ih =>
    obtain ⟨given⟩ := hs
    rename_i tr tr'
    have asked (tr : Transport) : t.advance i isOpen (.ask call next) (.client c tr) =
        (t.advance i isOpen (next (c.answer tr t.blog call).2.2)
          (.client c (c.answer tr t.blog call).1)).after
            [t.did (.ask t.blog call (c.answer tr t.blog call).2.2)
              (c.answer tr t.blog call).2.1] := rfl
    obtain ⟨rest, events, agree⟩ :=
      Client.answer_restyled (fun _ _ h => h call.role hcall) given c t.blog
    rw [asked, asked, ← events]
    generalize (c.answer tr t.blog call).2.2 = answer at agree ⊢
    generalize (c.answer tr' t.blog call).2.2 = answer' at agree ⊢
    have entry := Entry.restyled_ask t agree (c.answer tr t.blog call).2.1
    refine Progress.Restyled.after ?_ (.cons entry .nil)
    cases agree with
    | ok a => exact ih _ (.client rest)
    | error h =>
      cases h with
      | same f => exact ih _ (.client rest)
      | rejected h =>
        -- the work ends here, in both styles
        rw [rejected, rejected]
        exact ⟨.client rest, Entry.restyled_raising t (.rejected h),
          .mk (t.inStatus .finished) hk (.ended (.failure (.rejected h)))⟩

lemma Restyled.launch (h : t.Restyled reads t') (i : Nat) (args : List Argument) :
    (t.launch i args).record = (t'.launch i args).record ∧
      (t.launch i args).failure = (t'.launch i args).failure ∧
      (t.launch i args).task.Restyled reads (t'.launch i args).task := by
  obtain ⟨t, hk, -⟩ := h
  have launched (stage : Stage) : (t.atStage stage).launch i args = t.launch i args := rfl
  rw [launched, launched]
  refine ⟨rfl, rfl, ?_⟩
  unfold Task.launch
  split
  · exact .mk (t.inStatus .running) hk .abandoned
  · exact .mk (t.inStatus .running) hk (.ready false (Work.ofKind_yields hk _ _))

lemma Restyled.freed (h : t.Restyled reads t') (gate : String) :
    (t.freed gate).Restyled reads (t'.freed gate) := by
  obtain ⟨t, hk, hs⟩ := h
  cases hs with
  | idle => exact .mk t hk .idle
  | abandoned => exact .mk t hk .abandoned
  | ready begun hw => exact .mk t hk (.ready begun hw)
  | ended ho => exact .mk t hk (.ended ho)
  | @waiting g w hw =>
    have freed : (t.atStage (.waiting g w)).freed gate =
        t.atStage (if g = gate then .ready true w else .waiting g w) := by
      unfold Task.freed
      dsimp only [Task.atStage]
      split <;> rfl
    rw [freed]
    refine .mk t hk ?_
    split
    · exact .ready true hw
    · exact .waiting g hw

lemma Restyled.stop (h : t.Restyled reads t') : t.stop.Restyled reads t'.stop := by
  obtain ⟨t, hk, hs⟩ := h
  cases hs with
  | idle => exact .mk t hk .idle
  | abandoned => exact .mk t hk .abandoned
  | ready begun hw => exact .mk { t with stopped := true } hk (.ready begun hw)
  | waiting gate hw => exact .mk { t with stopped := true } hk (.ready true hw)
  | ended ho => exact .mk t hk (.ended ho)

lemma Restyled.turn (h : t.Restyled reads t') (i : Nat) (isOpen : String → Bool)
    (hs : s.Restyled reads c s') :
    (t.turn i isOpen s).Restyled reads c (t'.turn i isOpen s') := by
  obtain ⟨t, hk, stages⟩ := h
  cases stages with
  | idle => exact ⟨hs, .nil, .mk t hk .idle⟩
  | abandoned => exact ⟨hs, .nil, .mk t hk .abandoned⟩
  | waiting gate hw => exact ⟨hs, .nil, .mk t hk (.waiting gate hw)⟩
  | ended ho => exact ⟨hs, .nil, .mk t hk (.ended ho)⟩
  | @ready begun w hw =>
    have turned (s : Service) : (t.atStage (.ready begun w)).turn i isOpen s =
        if t.stopped then
          ⟨s, [], if begun then t.finish .cancelled else t.atStage (.ended .cancelled)⟩
        else (t.atStage (.ready begun w)).advance i isOpen w s := rfl
    rw [turned, turned]
    by_cases stopped : t.stopped = true
    · rw [if_pos stopped, if_pos stopped]
      refine ⟨hs, .nil, ?_⟩
      cases begun with
      | true => exact .mk (t.inStatus .finished) hk (.ended (.same _))
      | false => exact .mk t hk (.ended (.same _))
    · rw [if_neg stopped, if_neg stopped]
      exact advance_restyled (t := t.atStage (.ready begun w)) hk hw hs

lemma Restyled.settled (h : t.Restyled reads t') :
    t.settled.Restyled reads t'.settled ∧
      List.Forall₂ Entry.Restyled t.settlement t'.settlement := by
  obtain ⟨t, hk, hs⟩ := h
  cases hs with
  | idle => exact ⟨.mk t hk .idle, .nil⟩
  | abandoned => exact ⟨.mk t hk .abandoned, .nil⟩
  | ready begun hw => exact ⟨.mk t hk (.ready begun hw), .nil⟩
  | waiting gate hw => exact ⟨.mk t hk (.waiting gate hw), .nil⟩
  | ended ho =>
    refine ⟨.mk (t.inStatus .finished) hk (.ended ho), ?_⟩
    cases ho with
    | same o => exact Entry.forall₂_same _
    | failure => exact .nil

end Task

end BlogConsole
