import Mathlib.Data.List.TakeWhile
import SqlTree.Time.Rfc3339

/-!
# Points in time, read back

`Timestamp.read_text` says that reading gives back the point in time that
was written, of whatever year and with a leap second or without.

Every field is written with all its digits, so a field of a fixed width ends
where its width does, and a year with a sign and a fraction where the next
mark stands.  Each step of the reading is followed alone, over the text of
its field and whatever comes after it.
-/

set_option autoImplicit false

namespace SqlTree.Time

open SqlTree.Text

variable {α β : Type}

/-- A step is followed by the next one, on the text that it leaves. -/
theorem Reading.run_bind_of_ok {r : Reading α} {k : α → Reading β} {cs cs' : List Char} {a : α}
    (h : r.run cs = .ok (a, cs')) : (r >>= k).run cs = (k a).run cs' := by
  rw [StateT.run_bind, h]
  rfl

/-- A step that looks at the text goes on with it. -/
theorem Reading.run_get_bind (k : List Char → Reading β) (cs : List Char) :
    ((get : Reading (List Char)) >>= k).run cs = (k cs).run cs :=
  rfl

theorem Reading.run_set (cs cs' : List Char) :
    (set cs' : Reading PUnit).run cs = .ok ((), cs') :=
  rfl

/-! ## Digits -/

/-- No digit is a blank. -/
theorem isBlank_of_isDigit {c : Char} (h : c.isDigit = true) : isBlank c = false := by
  have hrange : 48 ≤ c.toNat ∧ c.toNat ≤ 57 := by
    simpa [Char.isDigit, UInt32.le_iff_toNat_le] using h
  simp [isBlank, CodeRanges.holds, blankRanges]
  omega

theorem numberOf_eq_ofDigitChars (digits : List Char) :
    numberOf digits = Nat.ofDigitChars 10 digits 0 :=
  rfl

/-- The characters of a padded number. -/
theorem padded_toList (width n : Nat) :
    (padded width n).toList
      = List.replicate (width - (Nat.toDigits 10 n).length) '0' ++ Nat.toDigits 10 n :=
  String.toList_ofList

/-- A padded number is the number. -/
theorem numberOf_padded (width n : Nat) : numberOf (padded width n).toList = n := by
  rw [numberOf_eq_ofDigitChars, padded_toList, Nat.ofDigitChars_append,
    Nat.ofDigitChars_replicate_zero, Nat.mul_zero, Nat.ofDigitChars_ten_toDigits]

/-- A padded number is written in digits. -/
theorem isDigit_of_mem_padded {width n : Nat} {c : Char} (h : c ∈ (padded width n).toList) :
    c.isDigit = true := by
  rw [padded_toList, List.mem_append] at h
  obtain hzero | hdigit := h
  · rw [(List.mem_replicate.mp hzero).2]
    rfl
  · exact Nat.isDigit_of_mem_toDigits (by decide) (by decide) hdigit

/-- A number that fits the width is padded to the width. -/
theorem length_padded {width n : Nat} (hwidth : 0 < width) (hn : n < Nat.pow 10 width) :
    (padded width n).toList.length = width := by
  have hle := (Nat.length_toDigits_le_iff (b := 10) (by decide) hwidth).mpr hn
  rw [padded_toList, List.length_append, List.length_replicate]
  omega

/-- A padded number starts with a digit. -/
theorem exists_padded_eq_cons (width n : Nat) :
    ∃ c cs, (padded width n).toList = c :: cs ∧ c.isDigit = true := by
  have hne : (padded width n).toList ≠ [] := by
    rw [padded_toList]
    exact List.append_ne_nil_of_right_ne_nil _ Nat.toDigits_ne_nil
  obtain ⟨c, cs, hcs⟩ := List.exists_cons_of_ne_nil hne
  exact ⟨c, cs, hcs, isDigit_of_mem_padded (hcs ▸ List.mem_cons_self)⟩

/-! ## Steps -/

theorem trimStart_cons {c : Char} {cs : List Char} (h : isBlank c = false) :
    trimStart (c :: cs) = c :: cs := by
  rw [trimStart, List.dropWhile_cons_of_neg (by simp [h])]

theorem skipBlanks_run {c : Char} {cs : List Char} (h : isBlank c = false) :
    skipBlanks.run (c :: cs) = .ok ((), c :: cs) := by
  show Except.ok ((), trimStart (c :: cs)) = _
  rw [trimStart_cons h]

/-- The digits of a number are read where no digit goes on within the
width. -/
theorem readDigits_run {width : Nat} {digits rest : List Char} (hne : digits ≠ [])
    (hdigits : ∀ c ∈ digits, c.isDigit = true) (hwidth : digits.length ≤ width)
    (hstop : (rest.take (width - digits.length)).takeWhile Char.isDigit = []) :
    (readDigits width).run (digits ++ rest) = .ok (digits, rest) := by
  have hempty : (digits ++ rest).isEmpty = false := by simp [hne]
  have htaken : ((digits ++ rest).take width).takeWhile Char.isDigit = digits := by
    rw [List.take_append, List.take_of_length_le hwidth,
      List.takeWhile_append_of_pos hdigits, hstop, List.append_nil]
  have hdigitsEmpty : digits.isEmpty = false := by simp [hne]
  rw [readDigits, Reading.run_get_bind]
  simp only [hempty, htaken, hdigitsEmpty, Bool.false_eq_true, if_false]
  rw [List.drop_left]
  rfl

/-- A padded number that fits its width is read up to its width. -/
theorem readDigits_padded (width n : Nat) (hwidth : 0 < width) (hn : n < Nat.pow 10 width)
    (rest : List Char) :
    (readDigits width).run ((padded width n).toList ++ rest)
      = .ok ((padded width n).toList, rest) := by
  have hlength := length_padded hwidth hn
  obtain ⟨c, cs, hcs, -⟩ := exists_padded_eq_cons width n
  refine readDigits_run (by simp [hcs]) (fun _ => isDigit_of_mem_padded) hlength.le ?_
  rw [hlength, Nat.sub_self, List.take_zero, List.takeWhile_nil]

/-- A field of two digits is read where it is in its range. -/
theorem readField_run {low high n : Nat} (hlow : low ≤ n) (hhigh : n ≤ high) (hn : n < 100)
    (rest : List Char) :
    (readField low high).run ((padded 2 n).toList ++ rest) = .ok (n, rest) := by
  have hdigits := readDigits_padded 2 n (by decide) hn rest
  obtain ⟨c, cs, hcs, hc⟩ := exists_padded_eq_cons 2 n
  have hblank : skipBlanks.run ((padded 2 n).toList ++ rest)
      = .ok ((), (padded 2 n).toList ++ rest) := by
    rw [hcs]
    exact skipBlanks_run (isBlank_of_isDigit hc)
  rw [readField, Reading.run_bind_of_ok hblank, Reading.run_bind_of_ok hdigits, numberOf_padded]
  simp only [Nat.not_lt.mpr hlow, Nat.not_lt.mpr hhigh, or_self, if_false]
  rfl

/-- A mark is read where it stands. -/
theorem readMark_run {mark : Char} (hmark : isBlank mark = false) (rest : List Char) :
    (readMark mark).run (mark :: rest) = .ok ((), rest) := by
  rw [readMark, Reading.run_bind_of_ok (skipBlanks_run hmark), Reading.run_get_bind]
  simp only [ne_eq, not_true, if_false]
  rfl

theorem readSeparator_run (rest : List Char) : readSeparator.run ('T' :: rest) = .ok ((), rest) :=
  rfl

/-- A padded number of any length is read up to the next mark. -/
theorem readDigits_toMark (width n limit : Nat) (mark : Char) (hmark : mark.isDigit = false)
    (hlimit : (padded width n).toList.length ≤ limit) (rest : List Char) :
    (readDigits limit).run ((padded width n).toList ++ mark :: rest)
      = .ok ((padded width n).toList, mark :: rest) := by
  obtain ⟨c, cs, hcs, -⟩ := exists_padded_eq_cons width n
  refine readDigits_run (by simp [hcs]) (fun _ => isDigit_of_mem_padded) hlimit ?_
  generalize limit - (padded width n).toList.length = more
  cases more with
  | zero => rfl
  | succ more => rw [List.take_succ_cons, List.takeWhile_cons_of_neg (by simp [hmark])]

/-! ## Years and fractions -/

/-- The digits of a year after its sign are read up to the mark after
them. -/
theorem readSignedYear_run {sign year : Int} (hyear : sign * year.natAbs = year)
    (hlow : -0x80000000 ≤ year) (hhigh : year < 0x80000000) (rest : List Char) :
    (readSignedYear sign).run ((padded 4 year.natAbs).toList ++ '-' :: rest)
      = .ok (year, '-' :: rest) := by
  have hdigits := readDigits_toMark 4 year.natAbs
    ((padded 4 year.natAbs).toList ++ '-' :: rest).length '-' rfl (by simp) rest
  rw [readSignedYear, Reading.run_get_bind, Reading.run_bind_of_ok hdigits, numberOf_padded, hyear]
  simp only [Int.not_lt.mpr hlow, Int.not_le.mpr hhigh, or_self, if_false]
  rfl

theorem readYear_minus (cs : List Char) :
    readYear.run ('-' :: cs) = (readSignedYear (-1)).run cs :=
  rfl

theorem readYear_plus (cs : List Char) :
    readYear.run ('+' :: cs) = (readSignedYear 1).run cs :=
  rfl

/-- A year of the calendar is read back, up to the mark after it. -/
theorem readYear_run {year : Int} (hfirst : firstYear ≤ year) (hlast : year ≤ lastYear)
    (rest : List Char) :
    readYear.run ((yearText year).toList ++ '-' :: rest) = .ok (year, '-' :: rest) := by
  unfold firstYear at hfirst
  unfold lastYear at hlast
  unfold yearText
  by_cases hplain : 0 ≤ year ∧ year ≤ 9999
  · rw [if_pos hplain]
    have hdigits := readDigits_padded 4 year.toNat (by decide)
      (by show _ < 10000; omega) ('-' :: rest)
    obtain ⟨c, cs, hcs, hc⟩ := exists_padded_eq_cons 4 year.toNat
    rw [hcs] at hdigits ⊢
    rw [readYear, List.cons_append, Reading.run_bind_of_ok (skipBlanks_run (isBlank_of_isDigit hc)),
      Reading.run_get_bind]
    split
    case h_1 heq => cases heq; cases hc
    case h_2 heq => cases heq; cases hc
    case h_3 =>
      rw [← List.cons_append, Reading.run_bind_of_ok hdigits, ← hcs, numberOf_padded]
      show Except.ok ((year.toNat : Int), '-' :: rest) = _
      rw [Int.toNat_of_nonneg hplain.1]
  · rw [if_neg hplain]
    by_cases hneg : year < 0
    · have htext : ("-" ++ padded 4 year.natAbs).toList = '-' :: (padded 4 year.natAbs).toList := by
        simp
      rw [if_pos hneg, htext, List.cons_append, readYear_minus]
      exact readSignedYear_run (by omega) (by omega) (by omega) rest
    · have htext : ("+" ++ padded 4 year.natAbs).toList = '+' :: (padded 4 year.natAbs).toList := by
        simp
      rw [if_neg hneg, htext, List.cons_append, readYear_plus]
      exact readSignedYear_run (by omega) (by omega) (by omega) rest

/-- A fraction of `width` digits is read back, up to the end of the time. -/
theorem readFraction_padded (width n : Nat) (hwidth : 0 < width) (hmax : width ≤ 9)
    (hn : n < Nat.pow 10 width) (rest : List Char) :
    readFraction.run (("." ++ padded width n).toList ++ 'Z' :: rest)
      = .ok (n * Nat.pow 10 (9 - width), 'Z' :: rest) := by
  have hlength := length_padded hwidth hn
  have hdigits := readDigits_toMark width n 9 'Z' rfl (by rw [hlength]; exact hmax) rest
  have htext : ("." ++ padded width n).toList = '.' :: (padded width n).toList := by simp
  rw [htext, List.cons_append, readFraction, Reading.run_get_bind]
  show (set _ >>= fun _ => readDigits 9 >>= fun digits => _).run _ = _
  rw [Reading.run_bind_of_ok (Reading.run_set _ _), Reading.run_bind_of_ok hdigits,
    numberOf_padded, hlength]
  rfl

/-- A fraction is read back, up to the end of the time. -/
theorem readFraction_run {nanosecond : Nat} (hlt : nanosecond < 1000000000) (rest : List Char) :
    readFraction.run ((fractionText nanosecond).toList ++ 'Z' :: rest)
      = .ok (nanosecond, 'Z' :: rest) := by
  unfold fractionText
  split
  case isTrue h =>
    rw [h]
    rfl
  split
  case isTrue h =>
    have hread := readFraction_padded 3 (nanosecond / 1000000) (by decide) (by decide)
      (by show _ < 1000; omega) rest
    have hscale : nanosecond / 1000000 * Nat.pow 10 (9 - 3) = nanosecond :=
      Nat.div_mul_cancel (Nat.dvd_of_mod_eq_zero h)
    rwa [hscale] at hread
  split
  case isTrue h =>
    have hread := readFraction_padded 6 (nanosecond / 1000) (by decide) (by decide)
      (by show _ < 1000000; omega) rest
    have hscale : nanosecond / 1000 * Nat.pow 10 (9 - 6) = nanosecond :=
      Nat.div_mul_cancel (Nat.dvd_of_mod_eq_zero h)
    rwa [hscale] at hread
  case isFalse =>
    have hread := readFraction_padded 9 nanosecond (by decide) (by decide) hlt rest
    have hscale : nanosecond * Nat.pow 10 (9 - 9) = nanosecond := Nat.mul_one nanosecond
    rwa [hscale] at hread

theorem readOffset_run : readOffset.run ['Z'] = .ok (0, []) := by
  decide

/-! ## Points in time -/

/-- The ranges of the fields of a day of the calendar. -/
theorem Date.ranges {d : Date} (h : d.isValid = true) :
    firstYear ≤ d.year ∧ d.year ≤ lastYear ∧ 1 ≤ d.month ∧ d.month ≤ 12 ∧ 1 ≤ d.day
      ∧ d.day ≤ 31 := by
  simp only [Date.isValid, Bool.and_eq_true, decide_eq_true_eq] at h
  obtain ⟨⟨⟨⟨⟨hfirst, hlast⟩, hmonth⟩, hmonth'⟩, hday⟩, hday'⟩ := h
  have hdays : daysInMonth d.year d.month ≤ 31 := by
    unfold daysInMonth
    split <;> split <;> decide
  exact ⟨hfirst, hlast, hmonth, hmonth', hday, hday'.trans hdays⟩

/-- The ranges of the fields of a time of day. -/
theorem Clock.ranges {c : Clock} (h : c.isValid = true) :
    c.hour ≤ 23 ∧ c.minute ≤ 59 ∧ c.second ≤ 60 ∧ c.nanosecond < 1000000000 := by
  simp only [Clock.isValid, Bool.and_eq_true, decide_eq_true_eq] at h
  omega

/-- On a clock that shows UTC the fields stay as they are. -/
theorem Timestamp.ofLocal?_utc (t : Timestamp) :
    Timestamp.ofLocal? t.date t.clock 0 = some t := by
  obtain ⟨hhour, hminute, -, -⟩ := Clock.ranges t.clock_valid
  have hshift : shiftBack t.date (60 * t.clock.hour + t.clock.minute) 0
      = (t.date, 60 * t.clock.hour + t.clock.minute) := by
    unfold shiftBack
    rw [Int.sub_zero, if_neg (by omega), if_neg (by omega), Int.toNat_natCast]
  have hhour' : (60 * t.clock.hour + t.clock.minute) / 60 = t.clock.hour := by omega
  have hminute' : (60 * t.clock.hour + t.clock.minute) % 60 = t.clock.minute := by omega
  simp only [Timestamp.ofLocal?, hshift, hhour', hminute']
  exact t.ofFields?_fields

/-- Reading gives back the point in time that was written. -/
theorem Timestamp.read_text (t : Timestamp) : Timestamp.read (t.text "Z") = .ok t := by
  obtain ⟨hfirst, hlast, hmonth, hmonth', hday, hday'⟩ := Date.ranges t.date_valid
  obtain ⟨hhour, hminute, hsecond, hnanosecond⟩ := Clock.ranges t.clock_valid
  have htext : (t.text "Z").toList
      = (yearText t.date.year).toList ++ '-' :: ((padded 2 t.date.month).toList
        ++ '-' :: ((padded 2 t.date.day).toList ++ 'T' :: ((padded 2 t.clock.hour).toList
        ++ ':' :: ((padded 2 t.clock.minute).toList ++ ':' :: ((padded 2 t.clock.second).toList
        ++ ((fractionText t.clock.nanosecond).toList ++ ['Z'])))))) := by
    simp [Timestamp.text, String.toList_append]
  have hrun : readTimestamp.run (t.text "Z").toList = .ok (t, []) := by
    rw [htext, readTimestamp,
      Reading.run_bind_of_ok (readYear_run hfirst hlast _),
      Reading.run_bind_of_ok (readMark_run rfl _),
      Reading.run_bind_of_ok (readField_run hmonth hmonth' (by omega) _),
      Reading.run_bind_of_ok (readMark_run rfl _),
      Reading.run_bind_of_ok (readField_run hday hday' (by omega) _),
      Reading.run_bind_of_ok (readSeparator_run _),
      Reading.run_bind_of_ok (readField_run (Nat.zero_le _) hhour (by omega) _),
      Reading.run_bind_of_ok (readMark_run rfl _),
      Reading.run_bind_of_ok (readField_run (Nat.zero_le _) hminute (by omega) _),
      Reading.run_bind_of_ok (readMark_run rfl _),
      Reading.run_bind_of_ok (readField_run (Nat.zero_le _) hsecond (by omega) _),
      Reading.run_bind_of_ok (readFraction_run hnanosecond []),
      Reading.run_bind_of_ok readOffset_run,
      Reading.run_bind_of_ok (show skipBlanks.run [] = .ok ((), []) from rfl),
      Reading.run_get_bind]
    have hvalid : (!t.date.isValid || decide (1440 ≤ (0 : Int).natAbs)) = false := by
      rw [t.date_valid]
      rfl
    have hlocal := t.ofLocal?_utc
    simp only [List.isEmpty_nil, Bool.not_true, Bool.false_eq_true, if_false, hvalid, hlocal]
    rfl
  rw [Timestamp.read, StateT.run'_eq, hrun]
  rfl

end SqlTree.Time
