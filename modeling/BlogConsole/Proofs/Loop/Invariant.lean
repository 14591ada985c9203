import BlogConsole.Proofs.Loop.Accepted

/-!
Invariants of the record and the service of a loop.

A record grows in two ways: by calls, which the service answers and is changed by, and by entries
that are no calls. So what both ways preserve holds after any steps, whatever tasks do the work.
-/

namespace BlogConsole.Loop

/-- What holds of a record and a service still holds when a call is made on the service, and when
entries are added that are no calls. -/
structure Preserved (P : List (Nat × Entry) → Service → Prop) : Prop where
  mute : ∀ {record s} (i : Nat) {es : List Entry}, P record s →
    (∀ e ∈ es, e.deed.isAsk = false) → P (record ++ es.map fun e => (i, e)) s
  ask : ∀ {record s} (i : Nat) (status : Status) (blog : Option String) (c : Call), P record s →
    P (record ++
        [(i, ⟨status, .ask blog c (s.serve i blog c).reply, (s.serve i blog c).events⟩)])
      (s.serve i blog c).service

namespace Preserved

variable {P : List (Nat × Entry) → Service → Prop} {record : List (Nat × Entry)} {s : Service}
  {l : Loop} {t : Task}

lemma advance (hP : Preserved P) (i : Nat) (isOpen : String → Bool) (w : Work)
    (h : P record s) :
    P (record ++ (t.advance i isOpen w s).record.map fun e => (i, e))
      (t.advance i isOpen w s).service := by
  -- progress after some entries is progress from the record that has them
  have after {record : List (Nat × Entry)} {es : List Entry} {p : Task.Progress}
      (h : P (record ++ (es.map fun e => (i, e)) ++ p.record.map fun e => (i, e)) p.service) :
      P (record ++ (p.after es).record.map fun e => (i, e)) (p.after es).service := by
    rw [Task.Progress.after, List.map_append, ← List.append_assoc]
    exact h
  induction w generalizing record s with
  | done r => exact hP.mute i h (Task.returning_no_ask r)
  | failed f => exact hP.mute i h (Task.raising_no_ask f)
  | note n next ih => exact after (ih (hP.mute i h (List.forall_mem_singleton.mpr rfl)))
  | handle e next ih => exact after (ih (hP.mute i h (Task.handle_no_ask e)))
  | ask c next ih =>
    have asked : P (record ++
        [t.did (.ask t.blog c (s.serve i t.blog c).reply) (s.serve i t.blog c).events].map
          fun e => (i, e)) (s.serve i t.blog c).service := hP.ask i t.status t.blog c h
    have goes := after (ih (s.serve i t.blog c).reply asked)
    unfold Task.advance
    dsimp only
    split
    · split
      · exact goes
      · exact asked
    · exact goes

lemma turn (hP : Preserved P) (i : Nat) (isOpen : String → Bool) (h : P record s) :
    P (record ++ (t.turn i isOpen s).record.map fun e => (i, e)) (t.turn i isOpen s).service := by
  unfold Task.turn
  split
  · split
    · rwa [List.map_nil, List.append_nil]
    · exact hP.advance i isOpen _ h
  · rwa [List.map_nil, List.append_nil]

lemma proceed (hP : Preserved P) (h : P l.record l.service) (i : Nat) :
    P (l.proceed i).record (l.proceed i).service := by
  cases ht : l.task? i with
  | none => rwa [proceed_none ht]
  | some t =>
    rw [proceed_some ht]
    obtain ⟨-, record, -, service, -⟩ :=
      enlist_same (l.taking i (t.turn i l.isOpen l.service)) i
        (t.turn i l.isOpen l.service).task.stage
    rw [record, service]
    exact hP.turn i l.isOpen h

lemma settle (hP : Preserved P) (h : P l.record l.service) (i : Nat) :
    P (l.settle i).record (l.settle i).service := by
  unfold Loop.settle
  split
  · exact h
  · exact hP.mute i h Task.settlement_no_ask

lemma step (hP : Preserved P) (h : P l.record l.service) (s : Step) :
    P (l.step s).record (l.step s).service := by
  cases s with
  | execute i args =>
    rw [Loop.step]
    unfold execute
    split
    · exact h
    · split
      · exact h
      · dsimp only
        split <;> exact hP.mute i h (Task.launch_no_ask args)
  | run =>
    have turned := List.foldlRecOn l.queue Loop.proceed (b := { l with queue := [] })
      (motive := fun l => P l.record l.service) h fun _ h i _ => hP.proceed h i
    exact List.foldlRecOn l.queue Loop.settle (motive := fun l => P l.record l.service) turned
      fun _ h i _ => hP.settle h i
  | release gate => exact h
  | cancel i =>
    rw [Loop.step]
    unfold cancel
    split
    · exact h
    · split <;> exact h

/-- What calls and other entries preserve holds after any steps. -/
lemma after (hP : Preserved P) {service : Service} (first : P [] service) (setups : List Setup)
    (ss : List Step) : P (after service setups ss).record (after service setups ss).service := by
  induction ss using List.reverseRecOn with
  | nil => exact first
  | append_singleton ss s ih =>
    rw [after_append]
    exact hP.step ih s

end Preserved

end BlogConsole.Loop
