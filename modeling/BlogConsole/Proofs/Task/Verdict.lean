import BlogConsole.Task.Loop
import Mathlib.Tactic.Lemma

/-!
Verdicts: the notices that a task failed and that a task was cancelled.

A verdict stands at the end of a task. The calls that a task makes show none, because a service
shows nothing but ordinary notices, requests and the calls of a script. Neither does the work of a
task write one, whatever it is answered. Neither shows a notice of the program itself.
-/

namespace BlogConsole

namespace Notice

def isTaskFailed : Notice → Bool
  | taskFailed .. => true
  | _ => false

def isTaskCancelled : Notice → Bool
  | taskCancelled _ => true
  | _ => false

def isVerdict (n : Notice) : Bool := n.isTaskFailed || n.isTaskCancelled

/-- A notice of a service or of the work of a task: no verdict, and none of the program itself. -/
def isOrdinary : Notice → Bool
  | taskFailed .. => false
  | taskCancelled _ => false
  | blogMissing => false
  | settingsInvalid _ => false
  | unexpected _ => false
  | _ => true

lemma not_isVerdict {n : Notice} (h : n.isOrdinary = true) : n.isVerdict = false := by
  cases n <;> first | rfl | cases h

end Notice

namespace Event

/-- All notices among the events are ordinary. -/
def Quiet (es : List Event) : Prop := ∀ n ∈ notices es, n.isOrdinary = true

lemma quiet_nil : Quiet [] := by
  intro n hn
  simp at hn

lemma quiet_notice {n : Notice} (h : n.isOrdinary = true) : Quiet [.notice n] := by
  intro m hm
  have : m = n := by simpa [notices] using hm
  rw [this, h]

/-- Events that are ordinary notices. -/
def Noticed (es : List Event) : Prop :=
  ∀ e ∈ es, ∃ n : Notice, n.isOrdinary = true ∧ e = .notice n

lemma noticed_nil : Noticed [] := List.forall_mem_nil _

lemma noticed_singleton {n : Notice} (h : n.isOrdinary = true) : Noticed [.notice n] :=
  List.forall_mem_singleton.mpr ⟨n, h, rfl⟩

lemma Noticed.requests {es : List Event} (h : Noticed es) : requests es = [] := by
  refine List.filterMap_eq_nil_iff.mpr fun e he => ?_
  obtain ⟨n, -, rfl⟩ := h e he
  rfl

/-- An event that a service can show: an ordinary notice, a request, or a call of a script. -/
def IsServed : Event → Prop
  | notice n => n.isOrdinary = true
  | request _ => True
  | called .. => True
  | _ => False

lemma Noticed.served {es : List Event} (h : Noticed es) : ∀ e ∈ es, e.IsServed := by
  intro e he
  obtain ⟨n, ordinary, rfl⟩ := h e he
  exact ordinary

lemma quiet_of_served {es : List Event} (h : ∀ e ∈ es, e.IsServed) : Quiet es := by
  intro n hn
  obtain ⟨e, he, noted⟩ := List.mem_filterMap.mp hn
  cases e with
  | notice m => cases noted; exact h _ he
  | _ => cases noted

end Event

open Event

def Entry.verdicts (es : List Entry) : List Notice := (notices (shown es)).filter (·.isVerdict)

namespace Entry

lemma verdicts_append (es fs : List Entry) : verdicts (es ++ fs) = verdicts es ++ verdicts fs := by
  rw [verdicts, shown_append, notices_append, List.filter_append, verdicts, verdicts]

lemma verdicts_of_quiet {es : List Entry} (h : ∀ e ∈ es, Quiet e.events) : verdicts es = [] := by
  induction es with
  | nil => rfl
  | cons e es ih =>
    obtain ⟨he, hes⟩ := List.forall_mem_cons.mp h
    have none : (notices e.events).filter (·.isVerdict) = [] :=
      List.filter_eq_nil_iff.mpr fun n hn => by simp [Notice.not_isVerdict (he n hn)]
    rw [verdicts, shown_cons, notices_append, List.filter_append, none, List.nil_append]
    exact ih hes

end Entry

/-! ### Reports -/

namespace Callbacks

lemma startEvent_quiet (c : Callbacks) (i : Nat) (message : String) (status : Status) :
    Quiet [c.startEvent i message status] := by
  cases c <;> simp [startEvent, Quiet, notices]

lemma completeEvent_quiet (c : Callbacks) (i : Nat) (r : Result) (status : Status) :
    Quiet [c.completeEvent i r status] := by
  cases c <;> simp [completeEvent, Quiet, notices]

end Callbacks

/-! ### Calls -/

namespace Store

lemma noticed_insert (s : Store) (blog : Option String) (draft : Argument) :
    Noticed (s.insert blog draft).2.1 := by
  unfold insert
  split
  · exact noticed_nil
  · exact noticed_nil
  · exact noticed_singleton rfl

lemma noticed_list (s : Store) (fields token : Option String) (maxResults : Option Int) :
    Noticed (s.list fields token maxResults).1 := by
  unfold list
  split
  · exact noticed_nil
  · split
    · exact noticed_nil
    · exact noticed_singleton rfl

/-- What a store is asked for is told in notices. -/
lemma noticed_answer (s : Store) (blog : Option String) (c : Call) :
    Noticed (s.answer blog c).2.1 := by
  cases c with
  | insert draft => exact s.noticed_insert blog draft
  | get id fields => exact noticed_nil
  | list fields token maxResults => exact s.noticed_list fields token maxResults

end Store

namespace Client

lemma noticed_errorOf (r : Response) (url : Url) (c : Call) (blog : Option String) :
    Noticed (errorOf r url c blog).1 := by
  unfold errorOf
  split
  · exact noticed_nil
  · exact noticed_singleton rfl

lemma noticed_transportError (kind message : String) (c : Call) (blog : Option String) :
    Noticed (transportError kind message c blog).1 := noticed_singleton rfl

lemma noticed_conclude (r : Response) (url : Url) (c : Call) (blog : Option String) :
    Noticed (conclude r url c blog).1 := by
  unfold conclude
  split
  · exact noticed_transportError _ _ _ _
  · exact noticed_nil
  · exact noticed_nil
  · split
    · exact noticed_nil
    · exact noticed_errorOf _ _ _ _

lemma noticed_receive (reply : Reply) (url : Url) (c : Call) (blog : Option String) :
    Noticed (receive reply url c blog).1 := by
  unfold receive
  split
  · split
    · exact noticed_nil
    · exact noticed_transportError _ _ _ _
  · split
    · exact noticed_nil
    · split
      · exact noticed_transportError _ _ _ _
      · split
        · exact noticed_nil
        · exact noticed_conclude _ _ _ _

lemma noticed_success (blog : Option String) (c : Call) (a : c.Answer) :
    Noticed (success blog c a) := by
  cases c with
  | insert draft => exact noticed_singleton rfl
  | get id fields => exact noticed_nil
  | list fields token maxResults => exact noticed_nil

lemma exchange_served (cl : Client) (transport : Transport) (blog : Option String) (c : Call) :
    ∀ e ∈ (cl.exchange transport blog c).2.1, e.IsServed := by
  have sent {es : List Event} (h : ∀ e ∈ es, e.IsServed) :
      ∀ e ∈ .notice (.requestSent (method c) (endpoint blog c)) :: es, e.IsServed :=
    List.forall_mem_cons.mpr ⟨rfl, h⟩
  unfold exchange
  split
  · exact sent (List.forall_mem_nil _)
  · split
    · exact sent (List.forall_mem_nil _)
    · split
      · exact sent (List.forall_mem_singleton.mpr trivial)
      · exact sent (List.forall_mem_cons.mpr ⟨trivial, (noticed_receive _ _ _ _).served⟩)

lemma answer_served (cl : Client) (transport : Transport) (blog : Option String) (c : Call) :
    ∀ e ∈ (cl.answer transport blog c).2.1, e.IsServed := by
  have exchanged := cl.exchange_served transport blog c
  unfold answer
  split
  · exact List.forall_mem_nil _
  · dsimp only
    split
    · exact exchanged
    · split
      · exact exchanged
      · exact List.forall_mem_append.mpr ⟨exchanged, (noticed_success _ _ _).served⟩

end Client

namespace Service

/-- Calls show events of the service only. -/
lemma serve_served (s : Service) (i : Nat) (blog : Option String) (c : Call) :
    ∀ e ∈ (s.serve i blog c).events, e.IsServed := by
  cases s with
  | store s => exact (s.noticed_answer blog c).served
  | client cl transport => exact cl.answer_served transport blog c
  | script entries => exact List.forall_mem_singleton.mpr trivial

lemma serve_quiet (s : Service) (i : Nat) (blog : Option String) (c : Call) :
    Quiet (s.serve i blog c).events := quiet_of_served (s.serve_served i blog c)

end Service

/-! ### Work -/

inductive Kind.Gives : Kind → Result → Prop
  | created (r : CreateResult) : Gives .create (.created r)
  | post (p : Post) : Gives .load (.post p)
  | posts {maxPages : Int} (ps : List Post) : Gives (.list maxPages) (.posts ps)

namespace Work

/-- Work that writes ordinary notices only and returns only some results, whatever it is
answered. -/
inductive Plain (gives : Result → Prop) : Work → Prop
  | done {r : Result} : gives r → Plain gives (done r)
  | failed (f : Failure) : Plain gives (failed f)
  | note {n : Notice} {next : Work} :
      n.isOrdinary = true → Plain gives next → Plain gives (note n next)
  | handle {e : ApiError} {next : Work} : Plain gives next → Plain gives (handle e next)
  | ask {c : Call} {next : c.Reply → Work} :
      (∀ reply, Plain gives (next reply)) → Plain gives (ask c next)

lemma create_plain (blog : Option String) (draft : Argument) :
    (create blog draft).Plain Kind.create.Gives := by
  refine .note rfl (.ask fun reply => ?_)
  split
  · exact .done (.created _)
  · refine .note rfl (.handle ?_)
    split
    · exact .done (.created _)
    · exact .failed _
  · exact .failed _

lemma placeholder_plain (e : ApiError) (origin : Option String) :
    (placeholder e origin).Plain Kind.load.Gives := by
  unfold placeholder
  split
  · exact .done (.post _)
  · exact .failed _

lemma load_plain (id : Argument) : (load id).Plain Kind.load.Gives := by
  refine .ask fun reply => ?_
  split
  · exact .done (.post _)
  · exact .note rfl (placeholder_plain _ _)
  · exact .failed _

/-- What holds of the steps of a listing holds of the listing. It calls for pages only; `T` holds of
its first token, and of each further one because of the page that gave it. After an error of the
service nothing stays, wherever the error comes from. -/
lemma gather_induct {P : Work → Prop} {T : Option String → Prop}
    (done : ∀ ps, P (.done (.posts ps)))
    (failed : ∀ f, P (.failed f))
    (fetched : ∀ page count total next, P next → P (.note (.pageFetched page count total) next))
    (dropped : ∀ e next, P next → P (.note (.listFailed e) next))
    (ask : ∀ token next, T token →
      (∀ e origin, next (.error (.api e origin)) = .note (.listFailed e) (.done (.posts []))) →
      (∀ answer, (∀ page, answer = .ok page → T (some (page.nextPageToken.getD ""))) →
        P (next answer)) →
      P (.ask (.list (some listFields) token none) next))
    (left before : Nat) {token : Option String} (gathered : List Post) (h : T token) :
    P (gather left before token gathered) := by
  induction left generalizing before token gathered with
  | zero =>
    unfold gather
    refine ask _ _ h (fun _ _ => rfl) fun answer _ => ?_
    split
    · split
      · exact done _
      · exact fetched _ _ _ _ (done _)
    · exact dropped _ _ (done _)
    · exact failed _
  | succ left ih =>
    unfold gather
    refine ask _ _ h (fun _ _ => rfl) fun answer continues => ?_
    split
    · next page =>
      split
      · exact done _
      · refine fetched _ _ _ _ ?_
        dsimp only
        split
        · exact done _
        · exact ih _ _ (continues page rfl)
    · exact dropped _ _ (done _)
    · exact failed _

lemma gather_plain (maxPages : Int) (left before : Nat) (token : Option String)
    (gathered : List Post) :
    (gather left before token gathered).Plain (Kind.list maxPages).Gives :=
  gather_induct (T := fun _ => True) (fun ps => .done (.posts ps)) .failed
    (fun _ _ _ _ => .note rfl) (fun _ _ => .note rfl)
    (fun _ _ _ _ goes => .ask fun answer => goes answer fun _ _ => trivial)
    left before gathered trivial

/-- The work of a task writes ordinary notices, and returns what tasks of its kind do. -/
lemma ofKind_plain (blog : Option String) (kind : Kind) (args : List Argument) :
    (ofKind blog kind args).Plain kind.Gives := by
  unfold ofKind
  split
  · exact create_plain _ _
  · exact load_plain _
  · exact gather_plain _ _ _ _ _
  all_goals exact .failed _

end Work

end BlogConsole
