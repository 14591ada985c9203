import BlogConsole.Proofs.Text.Integer
import BlogConsole.Proofs.Text.Utf8
import BlogConsole.Timestamp.Reading

/-!
Written timestamps are read back.

A timestamp is written in parts of two digits, apart from the fraction, which has six. So reading
takes two digits at a time, and what stands between the parts tells where they end.
-/

namespace BlogConsole.Timestamp

open Text

variable {n w : Nat} {cs : List Char} {c : Char}

/-! ### Digits -/

lemma padded_succ (h : 0 < w) (n : Nat) :
    padded (w + 1) n = padded w (n / 10) ++ [Nat.digitChar (n % 10)] := by
  rcases Nat.lt_or_ge n 10 with small | large
  · rw [padded, padded, Nat.toDigits_of_lt_base small, Nat.div_eq_of_lt small,
      Nat.mod_eq_of_lt small, Nat.toDigits_zero]
    obtain ⟨w, rfl⟩ := Nat.exists_eq_add_one.mpr h
    exact congrArg (· ++ _) List.replicate_succ'
  · rw [padded, padded, Nat.toDigits_of_base_le (by decide) large]
    rw [List.length_append, List.length_singleton, Nat.add_sub_add_right, List.append_assoc]

lemma padded_one (h : n < 10) : padded 1 n = [Nat.digitChar n] := by
  rw [padded, Nat.toDigits_of_lt_base h]
  rfl

def spelled (cs : List Char) : Nat := ofDigits (cs.map digitOf)

lemma spelled_append (cs : List Char) (c : Char) :
    spelled (cs ++ [c]) = 10 * spelled cs + digitOf c := by
  rw [spelled, ofDigits, List.map_append, List.foldl_append]
  rfl

lemma digitOf_digitChar (h : n < 10) : digitOf (Nat.digitChar n) = n :=
  Nat.toNat_digitChar_sub_48_of_lt_ten h

/-- A row of digits of a width that spells a number. -/
structure Spells (w n : Nat) (cs : List Char) : Prop where
  digits : ∀ c ∈ cs, c.isDigit = true
  length : cs.length = w
  value : spelled cs = n

/-- A number is written in as many digits as its width, unless it is too great. -/
lemma spells_padded (hw : 0 < w) (h : n < 10 ^ w) : Spells w n (padded w n) := by
  obtain ⟨w, rfl⟩ := Nat.exists_eq_add_one.mpr hw
  have digit {d : Nat} (h : d < 10) : (Nat.digitChar d).isDigit = true := by
    rw [Nat.isDigit_digitChar, decide_eq_true h]
  induction w generalizing n with
  | zero =>
    have small : n < 10 := h
    rw [padded_one small]
    exact ⟨List.forall_mem_singleton.mpr (digit small), rfl,
      (spelled_append [] _).trans ((Nat.zero_add _).trans (digitOf_digitChar small))⟩
  | succ w ih =>
    have last : n % 10 < 10 := Nat.mod_lt n (by decide)
    have high : n / 10 < 10 ^ (w + 1) := by
      rw [Nat.pow_succ] at h
      omega
    obtain ⟨digits, length, value⟩ := ih (Nat.succ_pos w) high
    rw [padded_succ (Nat.succ_pos w)]
    refine ⟨List.forall_mem_append.mpr ⟨digits, List.forall_mem_singleton.mpr (digit last)⟩, ?_, ?_⟩
    · rw [List.length_append, length, List.length_singleton]
    · rw [spelled_append, value, digitOf_digitChar last]
      omega

lemma asciiDigit?_of_isDigit (h : c.isDigit = true) : asciiDigit? c = some (digitOf c) := by
  obtain ⟨low, high⟩ := isDigit_bounds h
  exact if_pos ⟨low, high⟩

lemma filterMap_asciiDigit? (h : ∀ c ∈ cs, c.isDigit = true) :
    cs.filterMap asciiDigit? = cs.map digitOf := by
  induction cs with
  | nil => rfl
  | cons c cs ih =>
    obtain ⟨hc, hcs⟩ := List.forall_mem_cons.mp h
    rw [List.filterMap_cons_some (asciiDigit?_of_isDigit hc), ih hcs, List.map_cons]

lemma padded_two (h : n < 100) : ∃ a b, padded 2 n = [a, b] ∧ pair? a b = some n := by
  obtain ⟨digits, length, value⟩ := spells_padded two_pos h
  match hab : padded 2 n, length with
  | [a, b], _ =>
  rw [hab] at digits value
  refine ⟨a, b, rfl, ?_⟩
  rw [pair?, asciiDigit?_of_isDigit (digits a (by simp)),
    asciiDigit?_of_isDigit (digits b (by simp)), ← value]
  simp [spelled, ofDigits]

/-- A part of four digits is two of two. -/
lemma padded_four (n : Nat) : padded 4 n = padded 2 (n / 100) ++ padded 2 (n % 100) := by
  have high : n % 100 / 10 < 10 := by omega
  rw [padded_succ (by decide), padded_succ (by decide), padded_succ one_pos (n % 100),
    padded_one high, Nat.div_div_eq_div_mul]
  have tens : n % 100 / 10 = n / 10 % 10 := by omega
  have ones : n % 100 % 10 = n % 10 := by omega
  rw [tens, ones, List.append_assoc]

/-- Digits end before a text that does not go on with one. -/
lemma span_digits {ds : List Char} (digits : ∀ c ∈ ds, c.isDigit = true) (cs : List Char)
    (h : ∀ c ∈ cs.head?, c.isDigit = false) :
    (ds ++ cs).takeWhile Char.isDigit = ds ∧ (ds ++ cs).dropWhile Char.isDigit = cs := by
  have none : cs.takeWhile Char.isDigit = [] ∧ cs.dropWhile Char.isDigit = cs := by
    cases cs with
    | nil => exact ⟨rfl, rfl⟩
    | cons c cs =>
      have dark : ¬ c.isDigit = true := by simp [h c rfl]
      exact ⟨List.takeWhile_cons_of_neg dark, List.dropWhile_cons_of_neg dark⟩
  rw [List.takeWhile_append_of_pos digits, List.dropWhile_append_of_pos digits, none.1, none.2,
    List.append_nil]
  exact ⟨rfl, rfl⟩

/-! ### The date -/

lemma twoDigits_padded (cause : DateCause) (h : n < 100) :
    twoDigits cause (padded 2 n ++ cs) = .ok (n, cs) := by
  obtain ⟨a, b, hab, pair⟩ := padded_two h
  rw [hab, List.cons_append, List.singleton_append, twoDigits, pair]

lemma daysInMonth_lt (year month : Nat) : daysInMonth year month < 100 := by
  unfold daysInMonth
  split_ifs <;> decide

def writeDate (d : Date) : List Char :=
  padded 4 d.year ++ '-' :: padded 2 d.month ++ '-' :: padded 2 d.day

lemma length_writeDate (d : Date) : (writeDate d).length = 10 := by
  obtain ⟨-, hy⟩ := d.year_mem
  obtain ⟨-, hm⟩ := d.month_mem
  obtain ⟨-, hd⟩ := d.day_mem
  have year := (spells_padded (by decide : 0 < 4) (Nat.lt_succ_of_le hy)).length
  have month := (spells_padded (n := d.month) two_pos (by omega)).length
  have day := (spells_padded (n := d.day) two_pos (hd.trans_lt (daysInMonth_lt _ _))).length
  rw [writeDate, List.length_append, List.length_append, List.length_cons, List.length_cons, year,
    month, day]
  rfl

lemma dateParts_writeDate (d : Date) :
    dateParts (writeDate d ++ cs) = .ok ((d.year, d.month, d.day), cs) := by
  obtain ⟨year, month, day, hy, hm, hd⟩ := d
  have short := daysInMonth_lt year month
  have parts : writeDate ⟨year, month, day, hy, hm, hd⟩ ++ cs =
      padded 2 (year / 100) ++ (padded 2 (year % 100) ++
        '-' :: (padded 2 month ++ '-' :: (padded 2 day ++ cs))) := by
    rw [writeDate, padded_four]
    simp only [List.append_assoc, List.cons_append]
  have whole : 100 * (year / 100) + year % 100 = year := Nat.div_add_mod year 100
  simp only [parts, dateParts, twoDigits_padded _ (show year / 100 < 100 by omega),
    twoDigits_padded _ (show year % 100 < 100 by omega),
    twoDigits_padded _ (show month < 100 by omega), twoDigits_padded _ (show day < 100 by omega),
    afterHyphen, bind, Except.bind, whole]
  rw [if_neg (by omega), if_neg (by omega)]

/-! ### The time of day -/

def writeTime (t : TimeOfDay) : List Char :=
  padded 2 t.hour ++ ':' :: padded 2 t.minute ++ ':' :: padded 2 t.second ++
    if t.micros = 0 then [] else '.' :: padded 6 t.micros

/-- A text that does not go on with a fraction or with another digit. -/
def EndsTime (cs : List Char) : Prop :=
  ∀ c ∈ cs.head?, c.isDigit = false ∧ c ≠ '.' ∧ c ≠ ','

lemma fractionMicros_padded (h : n < 1000000) : fractionMicros (padded 6 n) = n := by
  obtain ⟨digits, length, value⟩ := spells_padded (by decide : 0 < 6) h
  rw [fractionMicros, List.take_append_of_le_length (by omega),
    List.take_of_length_le (by omega), filterMap_asciiDigit? digits]
  exact value

lemma timeParts?_writeTime (t : TimeOfDay) (h : EndsTime cs) :
    timeParts? (writeTime t ++ cs) = some (t, cs) := by
  obtain ⟨h1, h2, hour, hourPair⟩ := padded_two (t.hour_lt.trans (by decide))
  obtain ⟨m1, m2, minute, minutePair⟩ := padded_two (t.minute_lt.trans (by decide))
  obtain ⟨s1, s2, second, secondPair⟩ := padded_two (t.second_lt.trans (by decide))
  have self := TimeOfDay.ofParts?_self t
  rw [writeTime, hour, minute, second]
  simp only [List.cons_append, List.nil_append]
  rw [timeParts?, hourPair, minutePair]
  simp only [secondPair]
  split_ifs with whole
  · rw [whole] at self
    cases cs with
    | nil =>
      rw [List.append_nil]
      dsimp only
      rw [self]
      rfl
    | cons c cs =>
      have other : ¬ (c = '.' ∨ c = ',') := not_or.mpr (h c rfl).2
      rw [List.nil_append]
      dsimp only
      rw [if_neg other, self]
      rfl
  · obtain ⟨digits, length, -⟩ := spells_padded (by decide : 0 < 6) t.micros_lt
    obtain ⟨take, drop⟩ := span_digits digits cs fun c hc => (h c hc).1
    have some_digits : (padded 6 t.micros).isEmpty = false := by
      rw [List.isEmpty_eq_false_iff_exists_mem]
      exact List.exists_mem_of_length_pos (by omega)
    rw [List.cons_append]
    dsimp only
    rw [if_pos (.inl rfl), take, drop, some_digits, fractionMicros_padded t.micros_lt, self]
    rfl

/-! ### The offset -/

/-- An offset of whole minutes is one of whole seconds, too, so that rounding changes nothing. -/
lemma exists_minutes {o : UtcOffset} (h : o.IsWhole) :
    ∃ m, UtcOffset.ofMinutes? m = some o ∧ -1440 < m ∧ m < 1440 ∧ o.seconds = 60 * m := by
  obtain ⟨micros, low, high⟩ := o
  have whole : micros % 60000000 = 0 := h
  have bound : -1440 < micros / 60000000 ∧ micros / 60000000 < 1440 := by omega
  have back : 60000000 * (micros / 60000000) = micros := by omega
  refine ⟨micros / 60000000, ?_, bound.1, bound.2, ?_⟩
  · simp only [UtcOffset.ofMinutes?, dif_pos bound, back]
  · rw [UtcOffset.seconds]
    dsimp only
    obtain negative | rfl | positive := lt_trichotomy micros 0
    · rw [Int.sign_eq_neg_one_of_neg negative]
      omega
    · rfl
    · rw [Int.sign_eq_one_of_pos positive]
      omega

lemma offset?_signed {o : UtcOffset} {m : Int} (made : UtcOffset.ofMinutes? m = some o)
    (low : -1440 < m) (high : m < 1440) {sign : Char} (known : sign = '+' ∨ sign = '-')
    (h : m = if sign = '+' then (m.natAbs : Int) else -m.natAbs) :
    offset? (sign :: padded 2 (m.natAbs / 60) ++ ':' :: padded 2 (m.natAbs % 60)) =
      some (some o) := by
  have parts : m.natAbs / 60 < 24 ∧ m.natAbs % 60 < 60 := by omega
  obtain ⟨h1, h2, hours, hoursPair⟩ := padded_two (parts.1.trans (by decide))
  obtain ⟨m1, m2, minutes, minutesPair⟩ := padded_two (parts.2.trans (by decide))
  have zulu : ¬ (sign = 'Z' ∨ sign = 'z') := by
    obtain rfl | rfl := known <;> decide
  have signed : sign = '+' ∨ sign = '-' ∨ sign = '\u2212' := known.imp_right .inl
  have total : (if decide (sign ≠ '+') = true then
      -(60 * (m.natAbs / 60 : Nat) + (m.natAbs % 60 : Nat) : Int)
      else 60 * (m.natAbs / 60 : Nat) + (m.natAbs % 60 : Nat)) = m := by
    obtain rfl | rfl := known <;> simp at h ⊢ <;> omega
  rw [hours, minutes, List.cons_append, List.cons_append, List.singleton_append, offset?,
    if_neg zulu, if_pos signed, hoursMinutes?, hoursPair, minutesPair]
  dsimp only
  rw [if_pos parts, total, made]
  rfl

lemma offset?_writeOffset {o : Option UtcOffset} (whole : ∀ z ∈ o, z.IsWhole) :
    offset? (writeOffset o) = some o := by
  cases o with
  | none => rfl
  | some o =>
    obtain ⟨m, made, low, high, seconds⟩ := exists_minutes (whole o rfl)
    have hours : (60 * m).natAbs / 3600 = m.natAbs / 60 := by omega
    have minutes : (60 * m).natAbs / 60 % 60 = m.natAbs % 60 := by omega
    rw [writeOffset, seconds, hours, minutes]
    split_ifs with zero negative
    · obtain rfl : m = 0 := by omega
      rw [← made]
      rfl
    · exact offset?_signed made low high (.inr rfl) (by rw [if_neg (by decide)]; omega)
    · exact offset?_signed made low high (.inl rfl) (by rw [if_pos rfl]; omega)

lemma isWhole_ofMinutes? {m : Int} {o : UtcOffset} (h : UtcOffset.ofMinutes? m = some o) :
    o.IsWhole := by
  rw [UtcOffset.ofMinutes?] at h
  split at h
  · obtain rfl := Option.some.inj h
    exact Int.mul_emod_right _ _
  · cases h

/-- Only whole minutes are read. -/
lemma isWhole_offset? {cs : List Char} {o : UtcOffset} (h : offset? cs = some (some o)) :
    o.IsWhole := by
  have signed {negative : Bool} {h1 h2 m1 m2 : Char}
      (h : (hoursMinutes? negative h1 h2 m1 m2).map some = some (some o)) : o.IsWhole := by
    obtain ⟨_, found, same⟩ := Option.map_eq_some_iff.mp h
    obtain rfl := Option.some.inj same
    rw [hoursMinutes?] at found
    split at found
    · split at found
      · exact isWhole_ofMinutes? found
      · cases found
    · cases found
  rw [offset?.eq_def] at h
  split at h
  · cases h
  · split_ifs at h
    · obtain rfl := Option.some.inj (Option.some.inj h)
      decide
    · split at h
      · exact signed h
      · exact signed h
      · cases h

lemma endsTime_writeOffset (o : Option UtcOffset) : EndsTime (writeOffset o) := by
  intro c hc
  rw [writeOffset.eq_def] at hc
  split at hc
  · cases hc
  · split_ifs at hc <;> cases hc <;> decide

/-! ### Timestamps -/

lemma write_eq (t : Timestamp) :
    t.write = writeDate t.date ++ 'T' :: (writeTime t.time ++ writeOffset t.offset) := by
  simp only [write, writeDate, writeTime, List.append_assoc, List.cons_append]

lemma number?_of_hyphen {ds : List Char} (digits : ∀ c ∈ ds, c.isDigit = true) (ne : ds ≠ []) :
    number? (ds ++ '-' :: cs) = none := by
  obtain ⟨d, ds, rfl⟩ := List.exists_cons_of_ne_nil ne
  have unsigned : splitSign (d :: ds ++ '-' :: cs) = (false, d :: ds ++ '-' :: cs) :=
    splitSign_of_isDigit (digits d List.mem_cons_self)
  obtain ⟨-, drop⟩ := span_digits digits ('-' :: cs) fun c hc => by cases hc; rfl
  rw [number?, unsigned]
  dsimp only
  rw [drop]
  dsimp only
  rw [if_neg (by simp)]

lemma number?_write (t : Timestamp) : number? t.write = none := by
  obtain ⟨-, hy⟩ := t.date.year_mem
  obtain ⟨digits, length, -⟩ := spells_padded (by decide : 0 < 4) (Nat.lt_succ_of_le hy)
  have ne : padded 4 t.date.year ≠ [] := List.ne_nil_of_length_pos (by omega)
  rw [write_eq, writeDate, List.append_assoc, List.append_assoc, List.cons_append]
  exact number?_of_hyphen digits ne

@[simp] lemma ascii_padded (w n : Nat) : Ascii (padded w n) := by
  intro c hc
  obtain h | h := List.mem_append.mp hc
  · rw [List.eq_of_mem_replicate h]
    decide
  · exact (isDigit_bounds (isDigit_toDigits n c h)).2.trans_lt (by decide)

lemma ascii_writeOffset (o : Option UtcOffset) : Ascii (writeOffset o) := by
  cases o with
  | none => exact ascii_nil
  | some o =>
    rw [writeOffset]
    split_ifs <;> simp

lemma ascii_writeTime (t : TimeOfDay) : Ascii (writeTime t) := by
  rw [writeTime]
  split_ifs <;> simp

lemma ascii_write (t : Timestamp) : Ascii t.write := by
  simp [write_eq, writeDate, ascii_writeTime, ascii_writeOffset]

/-- **Written timestamps are read back**, with their fraction and their offset, if that is one of
whole minutes. -/
theorem ofJson_text {t : Timestamp} (whole : t.IsWhole) : ofJson (.string t.text) = .ok t := by
  have long : ¬ (encodeUtf8 t.write).length < 10 := by
    have bytes := length_le_encodeUtf8 t.write
    rw [write_eq, List.length_append, length_writeDate] at bytes
    rw [write_eq]
    omega
  have clock : clock? ('T' :: (writeTime t.time ++ writeOffset t.offset)) =
      some (t.time, t.offset) := by
    rw [clock?, if_pos (.inl rfl), timeParts?_writeTime _ (endsTime_writeOffset _)]
    dsimp only
    rw [offset?_writeOffset whole]
    rfl
  have calendar : ofCalendar t.write = .ok t := by
    rw [ofCalendar, if_neg long, write_eq, dateParts_writeDate]
    dsimp only
    rw [clock, Date.ofParts?_self]
  have plain : ¬ t.write.any isSurrogate = true := by
    rw [List.any_eq_true]
    rintro ⟨c, hc, surrogate⟩
    rw [(ascii_write t).writable _ hc] at surrogate
    cases surrogate
  rw [ofJson, text, String.toList_ofList, if_neg plain, ofText, number?_write]
  dsimp only
  rw [calendar]

lemma isWhole_ofMicros {n : Int} {t : Timestamp} (h : ofMicros n = .ok t) : t.IsWhole := by
  unfold ofMicros at h
  dsimp only at h
  split_ifs at h
  split at h
  · obtain rfl := Except.ok.inj h
    rintro _ ⟨⟩
    decide
  · cases h

lemma isWhole_ofDouble {x : Double} {t : Timestamp} (h : ofDouble x = .ok t) : t.IsWhole := by
  cases x with
  | nan => cases h
  | infinite => cases h
  | finite => exact isWhole_ofMicros h

lemma isWhole_ofCalendar {t : Timestamp} (h : ofCalendar cs = .ok t) : t.IsWhole := by
  rw [ofCalendar] at h
  split_ifs at h
  split at h
  · cases h
  · split at h
    · cases h
    · next rest _ time offset clock =>
      split at h
      · obtain rfl := Except.ok.inj h
        rintro o rfl
        rw [clock?.eq_def] at clock
        split at clock
        · cases clock
        · split_ifs at clock
          split at clock
          · obtain ⟨_, found, same⟩ := Option.map_eq_some_iff.mp clock
            cases same
            exact isWhole_offset? found
          · cases clock
      · cases h

lemma isWhole_ofText {t : Timestamp} (h : ofText cs = .ok t) : t.IsWhole := by
  rw [ofText] at h
  split at h
  · exact isWhole_ofCalendar h
  · split_ifs at h
    · exact isWhole_ofCalendar h
    · split at h
      · cases h
      · cases h
      · exact isWhole_ofMicros h
  · split at h
    · exact isWhole_ofCalendar h
    · exact isWhole_ofCalendar h
    · exact isWhole_ofDouble h

/-- **Timestamps that are read have offsets of whole minutes.** -/
theorem isWhole_ofJson {v : Json} {t : Timestamp} (h : ofJson v = .ok t) : t.IsWhole := by
  cases v with
  | string s =>
    rw [ofJson] at h
    split_ifs at h
    exact isWhole_ofText h
  | int n => exact isWhole_ofMicros h
  | float x => exact isWhole_ofDouble h
  | null | bool | array | object => cases h

end BlogConsole.Timestamp
