import Mathlib.Data.List.TakeWhile
import RelayGateway.Proofs.Text.Digit
import RelayGateway.Timestamp

/-! # Timestamps that are read and written

Whatever was read is a moment of the calendar: its date exists, its second lies in the day, and only the last
second of a minute runs on past a billion nanoseconds. Such moments are read back from what is written for
them, in any year.
-/
namespace RelayGateway.Timestamp
open Text (isDigit digitsValue)

variable {c : Char} {cs ds rest : List Char} {n : Nat} {t : Timestamp}

/-- A moment of the calendar. Offsets are full minutes, so a leap second ends a minute everywhere. -/
structure Proper (t : Timestamp) : Prop where
  date : validDate t.year t.month t.day = true
  second : t.second < 86400
  nanos : t.nanos < 1000000000 ∨ t.nanos < 2000000000 ∧ t.second % 60 = 59

/-- A date of the calendar has a month and a day of two digits at most. -/
theorem bounds_of_validDate {year : Int} {month day : Nat} (h : validDate year month day = true) :
    1 ≤ month ∧ month ≤ 12 ∧ 1 ≤ day ∧ day ≤ 31 := by
  simp only [validDate, Bool.and_eq_true, decide_eq_true_eq] at h
  obtain ⟨⟨-, hlow⟩, hhigh⟩ := h
  unfold daysInMonth at hhigh
  split at hhigh
  any_goals omega
  split at hhigh <;> omega

/-! ## What is read -/

theorem readDigits_digits {most : Nat} {ds cs rest : List Char} (h : readDigits most cs = some (ds, rest)) :
    (∀ c ∈ ds, isDigit c = true) ∧ ds.length ≤ most := by
  unfold readDigits at h
  have htaken : ((cs.take most).takeWhile isDigit).length ≤ most :=
    (List.takeWhile_sublist _).length_le.trans (List.length_take_le most cs)
  have hdigits : ∀ c ∈ (cs.take most).takeWhile isDigit, isDigit c = true := fun c hc =>
    List.mem_takeWhile_imp hc
  generalize (cs.take most).takeWhile isDigit = taken at h htaken hdigits
  cases taken with
  | nil => cases h
  | cons d taken =>
    cases h
    exact ⟨hdigits, htaken⟩

theorem readBetween_bounds {most low high : Nat} (h : readBetween most low high cs = some (n, rest)) :
    low ≤ n ∧ n ≤ high := by
  unfold readBetween at h
  split at h
  · split at h
    · next hbounds =>
      cases h
      exact hbounds
    · cases h
  · cases h

theorem readFraction_lt (h : readFraction cs = some (n, rest)) : n < 1000000000 := by
  unfold readFraction at h
  split at h
  · split at h
    · next ds cs' hds =>
      obtain ⟨hdigits, hlength⟩ := readDigits_digits hds
      cases h
      calc
        digitsValue ds * 10 ^ (9 - ds.length) < 10 ^ ds.length * 10 ^ (9 - ds.length) :=
          Nat.mul_lt_mul_of_pos_right (Text.digitsValue_lt hdigits) (Nat.pow_pos (by decide))
        _ = 1000000000 := by rw [← Nat.pow_add, Nat.add_sub_of_le hlength]
    · cases h
  · cases h
    decide

theorem readOffset_minutes {offset : Int} (h : readOffset cs = some (offset, rest)) : offset % 60 = 0 := by
  have hdigits : ∀ {negative cs}, readOffsetDigits negative cs = some (offset, rest) → offset % 60 = 0 := by
    intro negative cs h
    unfold readOffsetDigits at h
    split at h
    · split at h
      · split at h
        · split at h
          · cases h
            split <;> omega
          · cases h
        · cases h
      · cases h
    · cases h
  unfold readOffset at h
  split at h
  · cases h
    rfl
  · split at h
    · cases h; rfl
    · cases h; rfl
    · exact hdigits h
    · exact hdigits h
    · exact hdigits h
    · cases h

/-- A shift by full minutes leaves the second of the minute. -/
theorem proper_ofLocal? {year : Int} {month day second nanos : Nat} {offset : Int}
    (minutes : offset % 60 = 0)
    (leap : nanos < 1000000000 ∨ nanos < 2000000000 ∧ second % 60 = 59)
    (h : ofLocal? year month day second nanos offset = some t) : t.Proper := by
  unfold ofLocal? at h
  obtain ⟨hdate, ht⟩ := Option.ite_none_right_eq_some.1 h
  cases ht
  refine ⟨hdate, ?_, ?_⟩
  · dsimp only
    omega
  · dsimp only
    omega

/-- What is read is a moment of the calendar. -/
theorem proper_of_parse? {text : String} (h : parse? text = some t) : t.Proper := by
  unfold parse? parseChars? at h
  obtain ⟨⟨year, cs₁⟩, -, h⟩ := Option.bind_eq_some_iff.1 h
  obtain ⟨cs₂, -, h⟩ := Option.bind_eq_some_iff.1 h
  obtain ⟨⟨month, cs₃⟩, -, h⟩ := Option.bind_eq_some_iff.1 h
  obtain ⟨cs₄, -, h⟩ := Option.bind_eq_some_iff.1 h
  obtain ⟨⟨day, cs₅⟩, -, h⟩ := Option.bind_eq_some_iff.1 h
  obtain ⟨cs₆, -, h⟩ := Option.bind_eq_some_iff.1 h
  obtain ⟨⟨hour, cs₇⟩, -, h⟩ := Option.bind_eq_some_iff.1 h
  obtain ⟨cs₈, -, h⟩ := Option.bind_eq_some_iff.1 h
  obtain ⟨⟨minute, cs₉⟩, -, h⟩ := Option.bind_eq_some_iff.1 h
  obtain ⟨cs₁₀, -, h⟩ := Option.bind_eq_some_iff.1 h
  obtain ⟨⟨second, cs₁₁⟩, hsecond, h⟩ := Option.bind_eq_some_iff.1 h
  obtain ⟨⟨nanos, cs₁₂⟩, hnanos, h⟩ := Option.bind_eq_some_iff.1 h
  obtain ⟨⟨offset, cs₁₃⟩, hoffset, h⟩ := Option.bind_eq_some_iff.1 h
  have hlt := readFraction_lt hnanos
  have hminutes := readOffset_minutes hoffset
  have hbounds := readBetween_bounds hsecond
  obtain ⟨-, h⟩ := Option.ite_none_left_eq_some.1 h
  by_cases hleap : second = 60
  · rw [if_pos hleap] at h
    exact proper_ofLocal? hminutes (by omega) h
  · rw [if_neg hleap] at h
    exact proper_ofLocal? hminutes (.inl hlt) h

/-! ## What is written -/

section Padded
variable {width : Nat}

theorem padded_digits (width n : Nat) : ∀ c ∈ padded width n, isDigit c = true := by
  intro c hc
  rcases List.mem_append.1 hc with hzero | hdigit
  · rw [List.eq_of_mem_replicate hzero]
    rfl
  · exact Text.isDigit_of_mem_toDigits hdigit

theorem padded_ne_nil (width n : Nat) : padded width n ≠ [] := fun h =>
  Nat.toDigits_ne_nil (List.append_eq_nil_iff.1 h).2

theorem digitsValue_padded (width n : Nat) : digitsValue (padded width n) = n :=
  (Text.digitsValue_zeros _ _).trans (Text.digitsValue_toDigits n)

theorem length_padded (fits : n < 10 ^ width) (pos : 0 < width) : (padded width n).length = width := by
  have hlength : (Nat.toDigits 10 n).length ≤ width :=
    (Nat.length_toDigits_le_iff (by decide) pos).2 fits
  unfold padded
  rw [List.length_append, List.length_replicate]
  omega

end Padded

/-- Digits are read up to a character that is none. -/
theorem readDigits_append {most : Nat} (digits : ∀ c ∈ ds, isDigit c = true) (some_digit : ds ≠ [])
    (fits : ds.length ≤ most) (ends : isDigit c = false) :
    readDigits most (ds ++ c :: rest) = some (ds, c :: rest) := by
  have htake : (ds ++ c :: rest).take most = ds ++ (c :: rest).take (most - ds.length) := by
    rw [List.take_append, List.take_of_length_le fits]
  have hends : ∀ d, ((c :: rest).take (most - ds.length)).head? = some d → isDigit d = false := by
    intro d hd
    cases hlength : most - ds.length with
    | zero =>
      rw [hlength] at hd
      cases hd
    | succ k =>
      rw [hlength] at hd
      cases hd
      exact ends
  unfold readDigits
  rw [htake, (Text.digits_append digits hends).1]
  split
  · exact absurd rfl some_digit
  · rw [List.drop_left]

theorem isBlank_of_isDigit (h : isDigit c = true) : Text.isBlank c = false := by
  simp only [isDigit, Char.le_def, decide_eq_true_eq] at h
  have hlow : 48 ≤ c.toNat := h.1
  have hhigh : c.toNat ≤ 57 := h.2
  simp only [Text.isBlank, Bool.or_eq_false_iff, Bool.and_eq_false_iff, decide_eq_false_iff_not]
  omega

theorem skipBlanks_padded (width n : Nat) (rest : List Char) :
    Text.skipBlanks (padded width n ++ rest) = padded width n ++ rest := by
  obtain ⟨d, ds, hds⟩ := List.exists_cons_of_ne_nil (padded_ne_nil width n)
  have hd : isDigit d = true := padded_digits width n d (hds ▸ List.mem_cons_self)
  rw [hds]
  exact List.dropWhile_cons_of_neg (Bool.eq_false_iff.1 (isBlank_of_isDigit hd))

theorem readBetween_padded {width most low high : Nat} (fits : n < 10 ^ width) (pos : 0 < width)
    (le : width ≤ most) (bounds : low ≤ n ∧ n ≤ high) (ends : isDigit c = false) :
    readBetween most low high (padded width n ++ c :: rest) = some (n, c :: rest) := by
  have hlength := length_padded fits pos
  have hread : readDigits most (padded width n ++ c :: rest) = some (padded width n, c :: rest) :=
    readDigits_append (padded_digits width n) (padded_ne_nil width n) (by omega) ends
  unfold readBetween readNumber
  rw [skipBlanks_padded, hread, Option.map_some]
  dsimp only
  rw [digitsValue_padded, if_pos bounds]

/-- A year without a sign has four digits. -/
theorem readYear_unsigned (n : Nat) (rest : List Char) : readYear (padded 4 n ++ rest) =
    (readDigits 4 (padded 4 n ++ rest)).map fun r => ((digitsValue r.1 : Int), r.2) := by
  unfold readYear
  rw [skipBlanks_padded]
  obtain ⟨d, ds, hds⟩ := List.exists_cons_of_ne_nil (padded_ne_nil 4 n)
  have hd : isDigit d = true := padded_digits 4 n d (hds ▸ List.mem_cons_self)
  rw [hds, List.cons_append]
  split
  · next heq =>
    cases (List.cons.inj heq).1
    cases hd
  · next heq =>
    cases (List.cons.inj heq).1
    cases hd
  · rfl

theorem readYear_yearChars (year : Int) (rest : List Char) :
    readYear (yearChars year ++ '-' :: rest) = some (year, '-' :: rest) := by
  have hread : ∀ {most n}, (padded 4 n).length ≤ most →
      readDigits most (padded 4 n ++ '-' :: rest) = some (padded 4 n, '-' :: rest) := fun h =>
    readDigits_append (padded_digits _ _) (padded_ne_nil _ _) h rfl
  have hsigned : ∀ n, (padded 4 n).length ≤ (padded 4 n ++ '-' :: rest).length := by
    intro n
    rw [List.length_append]
    omega
  unfold yearChars
  split_ifs with hplain hnegative
  · have hyear : ((year.toNat : Nat) : Int) = year := by omega
    have hlength : (padded 4 year.toNat).length = 4 := length_padded (by omega) (by decide)
    rw [readYear_unsigned, hread (by omega), Option.map_some, digitsValue_padded, hyear]
  · have hyear : -((year.natAbs : Nat) : Int) = year := by omega
    show (readDigits (padded 4 year.natAbs ++ '-' :: rest).length
      (padded 4 year.natAbs ++ '-' :: rest)).map _ = _
    rw [hread (hsigned _), Option.map_some]
    dsimp only
    rw [digitsValue_padded, hyear]
  · have hyear : ((year.natAbs : Nat) : Int) = year := by omega
    show (readDigits (padded 4 year.natAbs ++ '-' :: rest).length
      (padded 4 year.natAbs ++ '-' :: rest)).map _ = _
    rw [hread (hsigned _), Option.map_some]
    dsimp only
    rw [digitsValue_padded, hyear]

/-- The fraction has as many digits as its nanoseconds need. -/
theorem readFraction_fractionChars {nanos : Nat} (lt : nanos < 1000000000) :
    readFraction (fractionChars nanos ++ ['Z']) = some (nanos, ['Z']) := by
  have hread : ∀ width n, n < 10 ^ width → 0 < width → width ≤ 9 →
      readFraction ('.' :: padded width n ++ ['Z']) = some (n * 10 ^ (9 - width), ['Z']) := by
    intro width n fits pos le
    have hlength := length_padded fits pos
    have hdigits : readDigits 9 (padded width n ++ ['Z']) = some (padded width n, ['Z']) :=
      readDigits_append (padded_digits width n) (padded_ne_nil width n) (by omega) rfl
    simp only [List.cons_append, readFraction, hdigits]
    rw [digitsValue_padded, hlength]
    rfl
  unfold fractionChars
  split_ifs with hzero hmillis hmicros
  · rw [hzero]
    rfl
  · rw [hread 3 _ (by omega) (by decide) (by decide)]
    have hnanos : nanos / 1000000 * 10 ^ (9 - 3) = nanos := by omega
    rw [hnanos]
  · rw [hread 6 _ (by omega) (by decide) (by decide)]
    have hnanos : nanos / 1000 * 10 ^ (9 - 6) = nanos := by omega
    rw [hnanos]
  · rw [hread 9 _ (by omega) (by decide) (by decide)]
    have hnanos : nanos * 10 ^ (9 - 9) = nanos := by omega
    rw [hnanos]

/-- After the seconds stands no digit. -/
theorem fractionChars_begin (nanos : Nat) :
    ∃ c cs, fractionChars nanos ++ ['Z'] = c :: cs ∧ isDigit c = false := by
  unfold fractionChars
  split_ifs
  · exact ⟨'Z', [], rfl, rfl⟩
  · exact ⟨'.', _, rfl, rfl⟩
  · exact ⟨'.', _, rfl, rfl⟩
  · exact ⟨'.', _, rfl, rfl⟩

theorem ofLocal?_same_day {year : Int} {month day second nanos : Nat} {offset : Int}
    (low : ¬ (second : Int) - offset < 0) (high : (second : Int) - offset < 86400)
    (date : validDate year month day = true) : ofLocal? year month day second nanos offset =
      some ⟨year, month, day, (((second : Int) - offset) % 86400).toNat, nanos⟩ := by
  unfold ofLocal?
  simp only [if_neg low, if_pos high, if_pos date]

theorem ofLocal?_utc (h : t.Proper) : ofLocal? t.year t.month t.day t.second t.nanos 0 = some t := by
  have hsecond := h.second
  have hshifted : ((t.second : Int) - 0) % 86400 = t.second := by omega
  rw [ofLocal?_same_day (by omega) (by omega) h.date, hshifted, Int.toNat_natCast]

theorem readMark_self {mark : Char} (h : Text.isBlank mark = false) (cs : List Char) :
    readMark mark (mark :: cs) = some cs := by
  have hskip : Text.skipBlanks (mark :: cs) = mark :: cs :=
    List.dropWhile_cons_of_neg (Bool.eq_false_iff.1 h)
  unfold readMark
  rw [hskip]
  exact if_pos rfl

theorem readSecond {second : Nat} (le : second ≤ 60) (nanos : Nat) :
    readBetween 2 0 60 (padded 2 second ++ (fractionChars nanos ++ ['Z'])) =
      some (second, fractionChars nanos ++ ['Z']) := by
  obtain ⟨c, cs, hcs, hc⟩ := fractionChars_begin nanos
  rw [hcs]
  exact readBetween_padded (by omega) (by decide) (by decide) (by omega) hc

theorem parseChars?_chars (h : t.Proper) : parseChars? t.chars = some t := by
  obtain ⟨hmonth, hmonth', hday, hday'⟩ := bounds_of_validDate h.date
  have hsecond := h.second
  have hnanos := h.nanos
  have hread : ∀ {most low high n rest c}, n < 100 → 2 ≤ most → low ≤ n ∧ n ≤ high → isDigit c = false →
      readBetween most low high (padded 2 n ++ c :: rest) = some (n, c :: rest) := fun fits le bounds ends =>
    readBetween_padded fits (by decide) le bounds ends
  unfold parseChars? chars
  dsimp only
  refine Option.bind_eq_some_iff.2 ⟨_, readYear_yearChars _ _, ?_⟩
  refine Option.bind_eq_some_iff.2 ⟨_, readMark_self rfl _, ?_⟩
  refine Option.bind_eq_some_iff.2 ⟨_, hread (by omega) (by decide) ⟨hmonth, hmonth'⟩ rfl, ?_⟩
  refine Option.bind_eq_some_iff.2 ⟨_, readMark_self rfl _, ?_⟩
  refine Option.bind_eq_some_iff.2 ⟨_, hread (by omega) (by decide) ⟨hday, hday'⟩ rfl, ?_⟩
  refine Option.bind_eq_some_iff.2 ⟨_, rfl, ?_⟩
  refine Option.bind_eq_some_iff.2 ⟨_, hread (by omega) (by decide) (by omega) rfl, ?_⟩
  refine Option.bind_eq_some_iff.2 ⟨_, readMark_self rfl _, ?_⟩
  refine Option.bind_eq_some_iff.2 ⟨_, hread (by omega) (by decide) (by omega) rfl, ?_⟩
  refine Option.bind_eq_some_iff.2 ⟨_, readMark_self rfl _, ?_⟩
  refine Option.bind_eq_some_iff.2 ⟨_, readSecond (by split <;> omega) _, ?_⟩
  refine Option.bind_eq_some_iff.2 ⟨_, readFraction_fractionChars (by split <;> omega), ?_⟩
  refine Option.bind_eq_some_iff.2 ⟨(0, []), by rfl, ?_⟩
  have hvalid : ¬ (Text.skipBlanks [] ≠ [] ∨ 86400 ≤ (0 : Int).natAbs ∨
      ¬ validDate t.year t.month t.day = true) := by
    simp [Text.skipBlanks, h.date]
  dsimp only
  rw [if_neg hvalid]
  have hclock : t.second / 3600 * 3600 + t.second / 60 % 60 * 60 + t.second % 60 = t.second := by omega
  by_cases hleap : 1000000000 ≤ t.nanos
  · -- The second is written as the sixtieth of its minute, which no other second is.
    have hlast : t.second % 60 = 59 := by omega
    rw [if_pos hleap, if_pos hleap, if_pos (by omega)]
    dsimp only
    rw [← hlast, hclock, Nat.sub_add_cancel hleap]
    exact ofLocal?_utc h
  · rw [if_neg hleap, if_neg hleap, if_neg (by omega)]
    dsimp only
    rw [hclock]
    exact ofLocal?_utc h

theorem parse?_render (h : t.Proper) : parse? t.render = some t := by
  unfold parse? render
  rw [String.toList_ofList, parseChars?_chars h]

/-- What was read is read again from what is written for it. -/
theorem reread {text : String} (h : parse? text = some t) : parse? t.render = some t :=
  parse?_render (proper_of_parse? h)

end RelayGateway.Timestamp
