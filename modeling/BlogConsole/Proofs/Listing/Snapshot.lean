import BlogConsole.Proofs.Task.Life

/-!
Listings read from one store.

The work of a listing calls for pages only, and a store that is asked for a page stays as it is. So
whatever work of this kind reads in one turn, it reads from the same store.
-/

namespace BlogConsole

inductive Work.Lists : Work → Prop
  | done (r : Result) : Lists (done r)
  | failed (f : Failure) : Lists (failed f)
  | note {n : Notice} {next : Work} : Lists next → Lists (note n next)
  | handle {e : ApiError} {next : Work} : Lists next → Lists (handle e next)
  | ask {fields token : Option String} {maxResults : Option Int}
      {next : (Call.list fields token maxResults).Reply → Work} :
      (∀ reply, Lists (next reply)) → Lists (ask (.list fields token maxResults) next)

lemma Work.gather_lists (left before : Nat) (token : Option String) (gathered : List Post) :
    (gather left before token gathered).Lists :=
  gather_induct (T := fun _ => True) (fun _ => .done _) .failed (fun _ _ _ _ => .note)
    (fun _ _ => .note) (fun _ _ _ _ goes => .ask fun answer => goes answer fun _ _ => trivial)
    left before gathered trivial

lemma Work.ofKind_lists (blog : Option String) (maxPages : Int) (args : List Argument) :
    (ofKind blog (.list maxPages) args).Lists := by
  cases args with
  | nil => exact gather_lists _ _ _ _
  | cons => exact .failed _

/-- A call that the entry tells of was answered by the store. -/
def Entry.ReadsFrom (st : Store) (e : Entry) : Prop :=
  ∀ blog call reply, e.deed = .ask blog call reply → reply = (st.answer blog call).2.2

namespace Task

variable {t : Task} {i : Nat} {st : Store}

lemma readsFrom_of_not_ask {e : Entry} (h : e.deed.isAsk = false) : e.ReadsFrom st := by
  intro blog call reply hd
  rw [hd] at h
  cases h

/-- All pages that work calls for are read from one store, which stays as it is. -/
lemma advance_lists {w : Work} (hw : w.Lists) (i : Nat) (isOpen : String → Bool) :
    (t.advance i isOpen w (.store st)).service = .store st ∧
      ∀ e ∈ (t.advance i isOpen w (.store st)).record, e.ReadsFrom st := by
  induction hw with
  | done r =>
    exact ⟨rfl, fun e he => readsFrom_of_not_ask (returning_no_ask r e he)⟩
  | failed f =>
    exact ⟨rfl, fun e he => readsFrom_of_not_ask (raising_no_ask f e he)⟩
  | note _ ih =>
    refine ⟨ih.1, List.forall_mem_cons.mpr ⟨readsFrom_of_not_ask rfl, ih.2⟩⟩
  | @handle e next _ ih =>
    refine ⟨ih.1, List.forall_mem_append.mpr ⟨fun entry he => ?_, ih.2⟩⟩
    exact readsFrom_of_not_ask (handle_no_ask e entry he)
  | @ask fields token maxResults next _ ih =>
    obtain ⟨service, reads⟩ := ih ((Service.store st).serve i t.blog
      (.list fields token maxResults)).reply
    refine ⟨service, List.forall_mem_cons.mpr ⟨?_, reads⟩⟩
    intro blog call reply hd
    cases hd
    rfl

end Task

end BlogConsole
