import BlogConsole.Proofs.Loop.Invariant
import BlogConsole.Proofs.Loop.Serial
import BlogConsole.Proofs.Task.Replay
import Mathlib

/-!
Tasks on one scripted service have no influence on each other but for the answers they are given.

The calls of all tasks take the entries of the script one by one. `taken` are the entries that came
upon the calls of one task; with these alone, and without their gates, the task does the same in a
loop of its own.
-/

namespace BlogConsole

namespace Loop

/-! ### The entries that calls take -/

/-- The calls of a record, with the numbers of the tasks that made them. -/
def asks (record : List (Nat × Entry)) : List (Nat × Entry) := record.filter (·.2.deed.isAsk)

/-- The entries of a script that the calls of one task took. Every call takes the next entry,
whoever makes it. -/
def taken (script : Nat → ScriptEntry) (l : Loop) (i : Nat) : List ScriptEntry :=
  ((asks l.record).zipIdx.filter (·.1.1 = i)).map fun p => script p.2

/-- The calls of a record were answered by the entries of a script, in order, and the service is the
rest of the script. -/
structure Answered (script : Nat → ScriptEntry) (record : List (Nat × Entry)) (s : Service) :
    Prop where
  service : s = .script fun n => script ((asks record).length + n)
  each : ∀ (n : Nat) (p : Nat × Entry), (asks record)[n]? = some p → p.2.AnsweredBy p.1 (script n)

variable {script : Nat → ScriptEntry} {record more : List (Nat × Entry)} {s s' : Service}
  {l : Loop} {i : Nat} {t : Task}

lemma asks_append : asks (record ++ more) = asks record ++ asks more := List.filter_append ..

namespace Answered

lemma append (h : Answered script record s)
    (h' : Answered (fun n => script ((asks record).length + n)) more s') :
    Answered script (record ++ more) s' := by
  constructor
  case service =>
    rw [h'.service, asks_append, List.length_append]
    simp only [Nat.add_assoc]
  case each =>
    intro n p hp
    rw [asks_append] at hp
    rcases Nat.lt_or_ge n (asks record).length with hn | hn
    · rw [List.getElem?_append_left hn] at hp
      exact h.each n p hp
    · rw [List.getElem?_append_right hn] at hp
      have answered := h'.each _ p hp
      rwa [Nat.add_sub_cancel' hn] at answered

lemma mute {es : List Entry} (h : ∀ e ∈ es, e.deed.isAsk = false) :
    Answered script (es.map fun e => (i, e)) (.script script) := by
  have none : asks (es.map fun e => (i, e)) = [] :=
    List.filter_eq_nil_iff.mpr fun p hp => by
      obtain ⟨e, he, rfl⟩ := List.mem_map.mp hp
      simp [h e he]
  constructor
  case service =>
    rw [none]
    simp
  case each =>
    rw [none]
    simp

lemma silent (script : Nat → ScriptEntry) : Answered script [] (.script script) :=
  mute (i := 0) (List.forall_mem_nil _)

lemma one (script : Nat → ScriptEntry) (i : Nat) (status : Status) (blog : Option String)
    (c : Call) :
    Answered script [(i, ⟨status, .ask blog c ((script 0).reply c), [.called i blog c]⟩)]
      (.script fun n => script (n + 1)) := by
  constructor
  case service => simp [asks, Deed.isAsk, Nat.add_comm]
  case each =>
    rintro (_ | n) p hp
    · cases hp
      exact ⟨_, _, rfl, rfl⟩
    · cases hp

lemma append_mute {es : List Entry} (h : Answered script record s)
    (hes : ∀ e ∈ es, e.deed.isAsk = false) :
    Answered script (record ++ es.map fun e => (i, e)) s := by
  have later := h.append (mute (i := i) hes)
  rwa [← h.service] at later

end Answered

/-- Calls take the entries in order, and nothing else takes any. -/
lemma answered_preserved (script : Nat → ScriptEntry) : Preserved (Answered script) := by
  constructor
  case mute => exact fun i _ h hes => h.append_mute hes
  case ask =>
    intro record s i status blog c h
    have later := h.append (.one (fun n => script ((asks record).length + n)) i status blog c)
    rw [h.service]
    exact later

lemma after_answered (script : Nat → ScriptEntry) (setups : List Setup) (ss : List Step) :
    Answered script (after (.script script) setups ss).record
      (after (.script script) setups ss).service :=
  (answered_preserved script).after (.silent script) setups ss

/-- The calls of a task are answered by the entries that they took. -/
lemma Answered.taken (h : Answered script l.record s) (i : Nat) :
    List.Forall₂ (Entry.AnsweredBy i) (Entry.asks (l.own i)) (l.taken script i) := by
  have mine : Entry.asks (l.own i) = ((asks l.record).filter (·.1 = i)).map (·.2) := by
    rw [Entry.asks, Loop.own, List.filter_map, asks, List.filter_filter, List.filter_filter]
    simp [Bool.and_comm]
  have placed : (asks l.record).filter (·.1 = i) =
      ((asks l.record).zipIdx.filter (·.1.1 = i)).map (·.1) := by
    conv_lhs => rw [← List.zipIdx_map_fst 0 (asks l.record), List.filter_map]
    rfl
  rw [mine, placed, List.map_map, Loop.taken, List.forall₂_map_left_iff,
    List.forall₂_map_right_iff, List.forall₂_same]
  rintro ⟨⟨j, e⟩, n⟩ hp
  obtain ⟨hp, hj⟩ := List.mem_filter.mp hp
  have answered := h.each n (j, e) (List.mem_zipIdx_iff_getElem?.mp hp)
  rwa [of_decide_eq_true hj] at answered

/-! ### Alone -/

/-- The loop in which a task is executed and runs alone, on entries of a script without gates. -/
def alone (u : Setup) (args : List Argument) (entries : List ScriptEntry) : Loop :=
  after (.ofEntries (entries.map ScriptEntry.ungated)) [u] [.execute 0 args, .run]

/-- A task that ended, and was not cancelled, does the same alone on the entries that it took. -/
lemma Sound.alone {gates : String → Prop} (h : Sound gates l)
    (answered : Answered script l.record l.service) (ht : l.task? i = some t)
    {args : List Argument} (life : t.Life i args (l.own i)) {o : Outcome}
    (hs : t.stage = .ended o) (ho : o ≠ .cancelled) :
    (alone t.toSetup args (l.taken script i)).own 0 = (l.own i).map (Entry.renumber 0) ∧
      (alone t.toSetup args (l.taken script i)).outcome? 0 = some o := by
  have started := h.start_unfailing ht hs
  generalize hentries : (l.taken script i).map ScriptEntry.ungated = entries
  obtain ⟨es, turn, own⟩ := life.replay hs ho (answered.taken i)
    (v := t.toSetup.launched args) rfl rfl 0 (new (.ofEntries entries) [.ofSetup t.toSetup]).isOpen
  rw [hentries] at turn
  -- the first turn in the other loop is the replay of the whole life
  have turn' : (t.toSetup.launched args).turn 0
      (new (.ofEntries entries) [.ofSetup t.toSetup]).isOpen (.ofEntries entries) =
      ⟨.ofEntries [], es, (t.toSetup.launched args).finish o⟩ := turn
  obtain ⟨task, own', -⟩ := execute_run_self (i := 0)
    (l := new (.ofEntries entries) [.ofSetup t.toSetup]) rfl rfl started args
  have service : (new (.ofEntries entries) [.ofSetup t.toSetup]).service = .ofEntries entries := rfl
  rw [service, turn'] at task own'
  rw [Task.settlement_of_ended rfl ho, List.append_nil] at own'
  rw [Loop.alone, hentries]
  exact ⟨own'.trans own.symm, outcome?_some task⟩

lemma Accepted.alone {setups : List Setup} {ss : List Step} {args : List Argument} {u : Setup}
    (ha : Accepted (.script script) setups ss i args) (hu : setups[i]? = some u) {o : Outcome}
    (ho : (after (.script script) setups ss).outcome? i = some o) (hne : o ≠ .cancelled) :
    (alone u args ((after (.script script) setups ss).taken script i)).own 0 =
        ((after (.script script) setups ss).own i).map (Entry.renumber 0) ∧
      (alone u args ((after (.script script) setups ss).taken script i)).outcome? 0 = some o := by
  obtain ⟨hi, rfl⟩ := List.getElem?_eq_some_iff.mp hu
  obtain ⟨t, ht, setup, -, life⟩ := ha.underway hi
  rw [outcome?_some ht] at ho
  rw [← setup]
  exact (after_sound (.script script) setups ss).alone (after_answered script setups ss) ht life
    (Task.stage_of_outcome? ho) hne

/-- **A task alone does the same.** A task on a scripted service that ended, and was not cancelled,
was executed with some arguments, and each of its calls was answered by the entry it took. When a
task that is made of the same is executed with these arguments and runs alone, on the entries that
were taken and without their gates, it does the same, in the same order and with the same outcome.
So nothing else has an influence on it: any task that is made of the same, is executed with the same
arguments and takes the same entries, but for their gates, does the same, whatever else is done to
its loop. -/
theorem runs_alone (script : Nat → ScriptEntry) (setups : List Setup) (ss : List Step) {i : Nat}
    {u : Setup} (hu : setups[i]? = some u) {o : Outcome}
    (ho : (after (.script script) setups ss).outcome? i = some o) (hne : o ≠ .cancelled) :
    (∃ args, Accepted (.script script) setups ss i args) ∧
    List.Forall₂ (Entry.AnsweredBy i) (Entry.asks ((after (.script script) setups ss).own i))
      ((after (.script script) setups ss).taken script i) ∧
    ∀ args, Accepted (.script script) setups ss i args →
      (alone u args ((after (.script script) setups ss).taken script i)).own 0 =
        ((after (.script script) setups ss).own i).map (Entry.renumber 0) ∧
      (alone u args ((after (.script script) setups ss).taken script i)).outcome? 0 = some o ∧
      ∀ script' setups' ss' i' o', setups'[i']? = some u →
        Accepted (.script script') setups' ss' i' args →
        (after (.script script') setups' ss').outcome? i' = some o' → o' ≠ .cancelled →
        ((after (.script script') setups' ss').taken script' i').map ScriptEntry.ungated =
          ((after (.script script) setups ss).taken script i).map ScriptEntry.ungated →
        o' = o ∧ ((after (.script script') setups' ss').own i').map (Entry.renumber 0) =
          ((after (.script script) setups ss).own i).map (Entry.renumber 0) := by
  refine ⟨?_, (after_answered script setups ss).taken i, fun args ha => ?_⟩
  · obtain ⟨hi, rfl⟩ := List.getElem?_eq_some_iff.mp hu
    obtain ⟨t, ht, -⟩ := exists_task (.script script) ss hi
    rw [outcome?_some ht] at ho
    refine accepted_of_underway ht ?_
    rw [Task.Underway, Task.stage_of_outcome? ho]
    trivial
  · obtain ⟨own, outcome⟩ := ha.alone hu ho hne
    refine ⟨own, outcome, fun script' setups' ss' i' o' hu' ha' ho' hne' same => ?_⟩
    obtain ⟨own', outcome'⟩ := ha'.alone hu' ho' hne'
    rw [alone, same, ← alone] at own' outcome'
    exact ⟨Option.some.inj (outcome'.symm.trans outcome), own'.symm.trans own⟩

/-- A page with one post, behind a gate if one is given. -/
def gatedPage (gate token : Option String) : ScriptEntry :=
  ⟨gate, fun
    | .list .. => .ok ⟨some [.empty], token⟩
    | c => c.fail .outOfReplies⟩

def listing : Setup := ⟨.list 5, none, .none, .console⟩

/-- The pages of two listings, which ask for them in turns. -/
def pagesOfTwo : List ScriptEntry :=
  [gatedPage (some "first") (some "more"), gatedPage (some "second") none, gatedPage none none]

/-- The second of two listings is let through first. -/
def overtaken : Loop :=
  after (.ofEntries pagesOfTwo) [listing, listing]
    [.execute 0 [], .execute 1 [], .run, .release "second", .run, .release "first", .run]

/-- The pages of a listing that has to wait for the last one. -/
def delayedPages : List ScriptEntry :=
  [gatedPage none (some "more"), gatedPage (some "last") none]

/-- A listing is executed before a task without work. -/
def delayed : Loop :=
  after (.ofEntries delayedPages) [⟨.bare, none, .none, .console⟩, listing]
    [.execute 1 [], .execute 0 [], .run, .release "last", .run]

theorem overtaken_alone :
    (alone listing [] [gatedPage (some "first") (some "more"), gatedPage none none]).own 0 =
      (overtaken.own 0).map (Entry.renumber 0) ∧
    (delayed.own 1).map (Entry.renumber 0) = (overtaken.own 0).map (Entry.renumber 0) := by
  have ended : overtaken.outcome? 0 = some (.result (.posts [.empty, .empty])) := by cbv
  have ended' : delayed.outcome? 1 = some (.result (.posts [.empty, .empty])) := by cbv
  have took : overtaken.taken (fun n => pagesOfTwo.getD n .exhausted) 0 =
      [gatedPage (some "first") (some "more"), gatedPage none none] := by cbv
  have took' : delayed.taken (fun n => delayedPages.getD n .exhausted) 1 = delayedPages := by cbv
  have same : (delayed.taken (fun n => delayedPages.getD n .exhausted) 1).map .ungated =
      (overtaken.taken (fun n => pagesOfTwo.getD n .exhausted) 0).map ScriptEntry.ungated := by
    rw [took, took']
    rfl
  obtain ⟨-, -, solo⟩ := runs_alone (fun n => pagesOfTwo.getD n .exhausted) [listing, listing] _ rfl
    ended (by simp)
  obtain ⟨own, -, others⟩ := solo [] ⟨[], _, rfl, rfl⟩
  obtain ⟨-, own'⟩ := others _ _ _ 1 _ rfl ⟨[], _, rfl, rfl⟩ ended' (by simp) same
  exact ⟨took ▸ own, own'⟩

end Loop

end BlogConsole
