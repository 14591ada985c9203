import BlogConsole.Proofs.Loop.Invariant
import BlogConsole.Proofs.Loop.Serial
import BlogConsole.Proofs.Task.Deeds

/-!
How the calls of tasks are served.

Whatever is done to a loop, a call in its record was made on what the service had become by then,
and has the reply and the events that this gave to it. So what others see of a task is told by its
deeds and by the services that it met.
-/

namespace BlogConsole

open Event Entry

/-- What a service becomes when it is called some number of times. -/
inductive Service.Leads (service : Service) : Service → Prop
  | here : Leads service service
  | serve {s : Service} (h : Leads service s) (i : Nat) (blog : Option String) (c : Call) :
      Leads service (s.serve i blog c).service

/-- What calls do not change, a service keeps. -/
lemma Service.Leads.keeps {service s : Service} (h : service.Leads s) {P : Service → Prop}
    (hP : ∀ s i blog c, P s → P (s.serve i blog c).service) (first : P service) : P s := by
  induction h with
  | here => exact first
  | serve _ i blog c ih => exact hP _ i blog c ih

/-- If task number `i` made a call, a service that comes of another one served it. -/
def Entry.ServedBy (service : Service) (i : Nat) (e : Entry) : Prop :=
  ∀ blog c reply, e.deed = .ask blog c reply →
    ∃ s, service.Leads s ∧ reply = (s.serve i blog c).reply ∧ e.events = (s.serve i blog c).events

/-- What an entry does is what others see of it: a call shows as the service that it met shows it,
and anything else as its task reports it. -/
structure Entry.Evident (service : Service) (u : Setup) (i : Nat) (e : Entry) : Prop where
  served : e.ServedBy service i
  shows : e.Shows u i

namespace Entry

variable {es : List Entry} {service : Service} {i : Nat}

lemma servedBy_of_not_ask (h : ∀ e ∈ es, e.deed.isAsk = false) :
    ∀ e ∈ es, e.ServedBy service i := by
  intro e he blog c reply hd
  have quiet := h e he
  rw [hd] at quiet
  cases quiet

lemma requests_of_shows {u : Setup} (h : ∀ e ∈ es, e.Shows u i) :
    requests (shown es) = (asks es).flatMap fun e => requests e.events := by
  induction es with
  | nil => rfl
  | cons e es ih =>
    obtain ⟨here, later⟩ := List.forall_mem_cons.mp h
    rw [shown_cons, requests_append, ih later]
    cases hask : e.deed.isAsk with
    | true =>
      have called : asks (e :: es) = e :: asks es := List.filter_cons_of_pos hask
      rw [called, List.flatMap_cons]
    | false =>
      have skipped : asks (e :: es) = asks es :=
        List.filter_cons_of_neg (by rw [hask]; exact Bool.false_ne_true)
      rw [skipped, here hask, Setup.shows_requests, List.nil_append]

/-- A task that made one call was served once, and what it sent was sent to serve this call. -/
lemma served_once {u : Setup} (told : ∀ e ∈ es, e.Shows u i)
    (served : ∀ e ∈ es, e.ServedBy service i) {blog : Option String} {c : Call} {reply : c.Reply}
    (once : (deeds es).filter (·.isAsk) = [.ask blog c reply]) :
    ∃ s, service.Leads s ∧ reply = (s.serve i blog c).reply ∧
      ∃ e, asks es = [e] ∧ e.events = (s.serve i blog c).events ∧
        requests (shown es) = requests (s.serve i blog c).events := by
  rw [filter_deeds] at once
  obtain ⟨e, asked, deed⟩ := List.map_eq_singleton_iff.mp once
  have mem : e ∈ es := List.mem_of_mem_filter (asked ▸ List.mem_singleton_self e : e ∈ asks es)
  obtain ⟨s, leads, answer, shown⟩ := served e mem blog c reply deed
  refine ⟨s, leads, answer, e, asked, shown, ?_⟩
  rw [requests_of_shows told, asked, List.flatMap_singleton, shown]

end Entry

namespace Loop

variable {service s : Service} {setups : List Setup} {ss : List Step} {l : Loop} {i : Nat}
  {t : Task} {args : List Argument}

/-- The service comes of another one, and so do those that served the calls of the record. -/
structure Served (service : Service) (record : List (Nat × Entry)) (s : Service) : Prop where
  leads : service.Leads s
  calls : ∀ p ∈ record, p.2.ServedBy service p.1

lemma served_preserved (service : Service) : Preserved (Served service) := by
  constructor
  case mute =>
    intro record s i es h hes
    have mute : ∀ e ∈ es, e.ServedBy service i := servedBy_of_not_ask hes
    exact ⟨h.leads, List.forall_mem_append.mpr ⟨h.calls, List.forall_mem_map.mpr mute⟩⟩
  case ask =>
    intro record s i status blog c h
    refine ⟨h.leads.serve i blog c, List.forall_mem_append.mpr ⟨h.calls, ?_⟩⟩
    refine List.forall_mem_singleton.mpr fun blog' c' reply deed => ?_
    cases deed
    exact ⟨s, h.leads, rfl, rfl⟩

/-- Every call was made on what the service had become by then. -/
lemma after_served (service : Service) (setups : List Setup) (ss : List Step) :
    Served service (after service setups ss).record (after service setups ss).service :=
  (served_preserved service).after ⟨.here, List.forall_mem_nil _⟩ setups ss

lemma own_served (service : Service) (setups : List Setup) (ss : List Step) (i : Nat) :
    ∀ e ∈ (after service setups ss).own i, e.ServedBy service i := by
  intro e he
  obtain ⟨⟨j, e⟩, hp, rfl⟩ := List.mem_map.mp he
  obtain ⟨hp, hj⟩ := List.mem_filter.mp hp
  have served := (after_served service setups ss).calls _ hp
  rwa [of_decide_eq_true hj] at served

/-! ### Tasks that ended -/

lemma own_shows (service : Service) (ss : List Step) (hi : i < setups.length) :
    ∀ e ∈ (after service setups ss).own i, e.Shows setups[i] i := by
  obtain ⟨t, ht, setup⟩ := exists_task service ss hi
  obtain ⟨args, life⟩ := (after_sound service setups ss).life i t ht
  rw [← setup]
  exact life.shows

lemma own_evident (service : Service) (ss : List Step) (hi : i < setups.length) :
    ∀ e ∈ (after service setups ss).own i, e.Evident service setups[i] i := fun e he =>
  ⟨own_served service setups ss i e he, own_shows service ss hi e he⟩

/-- An accepted task that ended, and was not cancelled, did what its work came to. -/
lemma Accepted.comes (ha : Accepted service setups ss i args) (hi : i < setups.length) {o : Outcome}
    (ho : (after service setups ss).outcome? i = some o) (hne : o ≠ .cancelled) :
    ∃ ds v, (Work.ofKind setups[i].blog setups[i].kind args).Comes setups[i] ds v ∧
      deeds ((after service setups ss).own i) =
        .start setups[i].kind.progress :: ds ++ Deed.ending setups[i].kind.name v ∧
      o = setups[i].outcome v := by
  obtain ⟨t, ht, setup, -, life⟩ := ha.underway hi
  rw [outcome?_some ht] at ho
  rw [← setup]
  exact life.comes (Task.stage_of_outcome? ho) hne

end Loop

end BlogConsole
