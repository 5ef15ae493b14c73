import TicketSync.Instant
import TicketSync.Proofs.JsonText

/-! # The text of an instant reads back

The days of 400 years that start in March are counted by whole centuries, then by groups of four
years, then by years. Only the last century and the last year of a group are a day longer, so a day
is found again from its year, month and day. -/
namespace TicketSync

/-! ### The calendar -/

/-- A day among those of 400 years, as a day of a year of a group of four of a century. -/
structure EraDay (e c q a d : Nat) : Prop where
  eq : e = 36524 * c + 1461 * q + 365 * a + d
  century : c ≤ 3
  group : q ≤ 24
  year : a ≤ 3
  day : d ≤ 365
  lastYear : d = 365 → a = 3
  lastCentury : d = 365 → q = 24 → c = 3

theorem EraDay.exists {e : Nat} (he : e < 146097) : ∃ c q a d, EraDay e c q a d := by
  obtain ⟨c, r, hc, hr, hlast, rfl⟩ :
      ∃ c r, c ≤ 3 ∧ r ≤ 36524 ∧ (r = 36524 → c = 3) ∧ e = 36524 * c + r := by
    by_cases h : e = 146096
    · exact ⟨3, 36524, by omega, by omega, by omega, by omega⟩
    · exact ⟨e / 36524, e % 36524, by omega, by omega, by omega, by omega⟩
  obtain ⟨q, s, hq, hs, hlong, rfl⟩ :
      ∃ q s, q ≤ 24 ∧ s ≤ 1460 ∧ (s = 1460 → q = 24 → c = 3) ∧ r = 1461 * q + s :=
    ⟨r / 1461, r % 1461, by omega, by omega, by omega, by omega⟩
  by_cases h : s = 1460
  · exact ⟨c, q, 3, 365, by omega, hc, hq, by omega, by omega, by omega, by omega⟩
  · exact ⟨c, q, s / 365, s % 365, by omega, hc, hq, by omega, by omega, by omega, by omega⟩

theorem EraDay.year_eq {e c q a d : Nat} (h : EraDay e c q a d) :
    (e - e / 1460 + e / 36524 - e / 146096) / 365 = 100 * c + 4 * q + a := by
  obtain ⟨heq, hc, hq, ha, hd, hyear, hcentury⟩ := h
  by_cases hlast : e = 146096
  · have hparts : c = 3 ∧ q = 24 ∧ a = 3 := by omega
    obtain ⟨rfl, rfl, rfl⟩ := hparts
    subst hlast
    rfl
  · have hgroups : e / 1460 = 25 * c + q + if 24 * c + q + 365 * a + d < 1460 then 0 else 1 := by
      clear hyear hcentury
      split <;> omega
    have hcenturies : e / 36524 = c := by
      clear hgroups
      omega
    have hera : e / 146096 = 0 := by
      clear hgroups
      omega
    rw [hgroups, hcenturies, hera]
    split <;> omega

theorem EraDay.year_div {e c q a d : Nat} (h : EraDay e c q a d) :
    (100 * c + 4 * q + a) / 4 = 25 * c + q ∧ (100 * c + 4 * q + a) / 100 = c := by
  obtain ⟨-, -, hq, ha, -⟩ := h
  omega

namespace CalendarDay

/-- A day that there is. -/
def Valid (c : CalendarDay) : Prop :=
  1 ≤ c.month ∧ c.month ≤ 12 ∧ 1 ≤ c.day ∧ c.day ≤ daysInMonth c.year c.month

/-- The day of a year that starts in March, in the months of the calendar. -/
theorem ofNumber_eq {n era : Int} {e c q a d m : Nat} (hn : n + 719468 = era * 146097 + e)
    (he : e < 146097) (h : EraDay e c q a d) (hm : m = (5 * d + 2) / 153) :
    ofNumber n =
      ⟨era * 400 + (100 * c + 4 * q + a : Nat) + if m < 10 then 0 else 1,
        if m < 10 then m + 3 else m - 9, d - (153 * m + 2) / 5 + 1⟩ := by
  have hera : (n + 719468) / 146097 = era := by omega
  have hof : ((n + 719468) % 146097).toNat = e := by omega
  have hday : e - (365 * (100 * c + 4 * q + a) + (100 * c + 4 * q + a) / 4 -
      (100 * c + 4 * q + a) / 100) = d := by
    rw [h.year_div.1, h.year_div.2, h.eq]
    omega
  have hd := h.day
  simp only [ofNumber, hera, hof, h.year_eq, hday, ← hm, mk.injEq, true_and]
  constructor
  · split <;> split <;> omega
  · trivial

/-- A number of days by its 400 years, the day among these, and the month. -/
theorem exists_eraDay (n : Int) : ∃ (era : Int) (e c q a d m : Nat),
    n + 719468 = era * 146097 + e ∧ e < 146097 ∧ EraDay e c q a d ∧ m = (5 * d + 2) / 153 := by
  have he : ((n + 719468) % 146097).toNat < 146097 := by omega
  obtain ⟨c, q, a, d, h⟩ := EraDay.exists he
  exact ⟨(n + 719468) / 146097, _, c, q, a, d, _, by omega, he, h, rfl⟩

theorem number_eq {day : CalendarDay} {era : Int} {y m d : Nat}
    (hyear : (if day.month ≤ 2 then day.year - 1 else day.year) = era * 400 + y) (hy : y ≤ 399)
    (hmonth : (day.month + 9) % 12 = m) (hday : (153 * m + 2) / 5 + day.day = d + 1) :
    day.number = era * 146097 + y * 365 + (y / 4 : Nat) - (y / 100 : Nat) + d - 719468 := by
  have hera : (era * 400 + (y : Int)) / 400 = era := by omega
  have hof : (era * 400 + (y : Int)) % 400 = y := by omega
  have hm : ((day.month : Int) + 9) % 12 = m := by omega
  simp only [number, hyear, hera, hof, hm]
  omega

theorem number_ofNumber (n : Int) : (ofNumber n).number = n := by
  obtain ⟨era, e, c, q, a, d, m, hn, he, h, hm⟩ := exists_eraDay n
  have hd := h.day
  have hstart : (153 * m + 2) / 5 ≤ d := by omega
  have hmonth : m ≤ 11 := by omega
  have hy : 100 * c + 4 * q + a ≤ 399 := by
    have := h.century
    have := h.group
    have := h.year
    omega
  rw [ofNumber_eq hn he h hm, @number_eq _ era (100 * c + 4 * q + a) m d ?_ hy ?_ ?_]
  · rw [h.year_div.1, h.year_div.2]
    have := h.eq
    omega
  · dsimp only
    split <;> split <;> omega
  · dsimp only
    split <;> omega
  · dsimp only
    omega

theorem le_daysInMonth_february (y : Int) : 28 ≤ daysInMonth y 2 := by
  cases h : isLeapYear y <;> simp [daysInMonth, h]

theorem isLeapYear_of_lastDay {e c q a : Nat} (h : EraDay e c q a 365) {y era : Int}
    (hy : y = era * 400 + (100 * c + 4 * q + a : Nat) + 1) : isLeapYear y = true := by
  have ha := h.lastYear rfl
  have hc := h.lastCentury rfl
  have hq := h.group
  have hfour : y % 4 = 0 := by omega
  have hcentury : y % 100 ≠ 0 ∨ y % 400 = 0 := by omega
  simp only [isLeapYear, Bool.and_eq_true, Bool.or_eq_true, decide_eq_true_eq]
  exact ⟨hfour, hcentury⟩

theorem valid_ofNumber (n : Int) : (ofNumber n).Valid := by
  obtain ⟨era, e, c, q, a, d, m, hn, he, h, hm⟩ := exists_eraDay n
  have hd := h.day
  have hmonth : m ≤ 11 := by omega
  rw [ofNumber_eq hn he h hm]
  by_cases hfebruary : m = 11
  · subst hfebruary
    refine ⟨by simp, by simp, by simp, ?_⟩
    generalize hy : (era * 400 + (100 * c + 4 * q + a : Nat) + if 11 < 10 then 0 else 1 : Int) = y
    by_cases hlast : d = 365
    · subst hlast
      have hleap := isLeapYear_of_lastDay h hy.symm
      simp [daysInMonth, hleap]
    · have hday : d - 337 + 1 ≤ 28 := by omega
      exact Nat.le_trans hday (le_daysInMonth_february y)
  · have hcases : m = 0 ∨ m = 1 ∨ m = 2 ∨ m = 3 ∨ m = 4 ∨ m = 5 ∨ m = 6 ∨ m = 7 ∨ m = 8 ∨ m = 9 ∨
        m = 10 := by omega
    rcases hcases with rfl | rfl | rfl | rfl | rfl | rfl | rfl | rfl | rfl | rfl | rfl <;>
      simp [Valid, daysInMonth] <;> omega

end CalendarDay

namespace Instant

/-! ### Digits -/

theorem digitsValue_eq (ds : List Char) : digitsValue ds = Nat.ofDigitChars 10 ds 0 :=
  foldl_digits 0 ds

theorem toList_padded (width n : Nat) : (padded width n).toList =
    List.replicate (width - (Nat.toDigits 10 n).length) '0' ++ Nat.toDigits 10 n := by
  simp [padded, Nat.repr_eq_ofList_toDigits]

theorem isDigit_padded (width n : Nat) : ∀ c ∈ (padded width n).toList, c.isDigit = true := by
  intro c hc
  rw [toList_padded, List.mem_append] at hc
  rcases hc with hc | hc
  · rw [List.eq_of_mem_replicate hc]
    rfl
  · exact isDigit_of_mem_decimal hc

theorem padded_ne_nil (width n : Nat) : (padded width n).toList ≠ [] := by
  simp [toList_padded, Nat.toDigits_ne_nil]

theorem length_padded {width n : Nat} (hwidth : 0 < width) (hn : n < tenTo width) :
    (padded width n).toList.length = width := by
  have hdigits := (Nat.length_toDigits_le_iff (n := n) (b := 10) (by decide) hwidth).mpr hn
  rw [toList_padded, List.length_append, List.length_replicate]
  omega

theorem digitsValue_padded (width n : Nat) : digitsValue (padded width n).toList = n := by
  rw [digitsValue_eq, toList_padded, Nat.ofDigitChars_append, Nat.ofDigitChars_replicate_zero,
    Nat.mul_zero, Nat.ofDigitChars_ten_toDigits]

theorem isBlank_of_isDigit {c : Char} (hc : c.isDigit = true) : Text.isBlank c = false := by
  simp only [Char.isDigit, Bool.and_eq_true, decide_eq_true_eq] at hc
  have hlow : 48 ≤ c.toNat := hc.1
  have hhigh : c.toNat ≤ 57 := hc.2
  simp [Text.isBlank, Text.blankRanges, Text.Ranges.has]
  omega

theorem skipBlanks_digits {ds : List Char} (hne : ds ≠ []) (hds : ∀ c ∈ ds, c.isDigit = true)
    (rest : List Char) : skipBlanks (ds ++ rest) = ds ++ rest := by
  cases ds with
  | nil => exact absurd rfl hne
  | cons d ds =>
    have hd := isBlank_of_isDigit (hds d List.mem_cons_self)
    simp [skipBlanks, hd]

theorem readNumber?_padded {width n : Nat} (hwidth : 0 < width) (hn : n < tenTo width)
    (rest : List Char) :
    readNumber? width ((padded width n).toList ++ rest) = some (n, rest) := by
  have hskip := skipBlanks_digits (padded_ne_nil width n) (isDigit_padded width n) rest
  have htake : ((padded width n).toList ++ rest).take width = (padded width n).toList :=
    List.take_left' (length_padded hwidth hn)
  have hdigits : (padded width n).toList.takeWhile Char.isDigit = (padded width n).toList := by
    simpa using @takeWhile_span _ _ [] (isDigit_padded width n) (by simp)
  have hsome := List.isEmpty_eq_false_iff.mpr (padded_ne_nil width n)
  simp [readNumber?, hskip, htake, hdigits, hsome, digitsValue_padded]

/-! ### Parts of the text -/

theorem skipBlanks_cons {c : Char} (hc : Text.isBlank c = false) (rest : List Char) :
    skipBlanks (c :: rest) = c :: rest := by
  simp [skipBlanks, hc]

theorem afterMark?_cons {mark : Char} (hmark : Text.isBlank mark = false) (rest : List Char) :
    afterMark? mark (mark :: rest) = some rest := by
  simp [afterMark?, skipBlanks_cons hmark]

theorem readYear?_signed (sign : Char) (hsign : sign = '-' ∨ sign = '+') (n : Nat)
    {rest : List Char} (hrest : NoDigit rest) :
    readYear? (sign :: ((padded 4 n).toList ++ rest)) =
      some (if sign = '-' then -(n : Int) else n, rest) := by
  have hdigits := takeWhile_span (isDigit_padded 4 n) hrest
  have hsome := List.isEmpty_eq_false_iff.mpr (padded_ne_nil 4 n)
  rcases hsign with rfl | rfl
  · have hskip := @skipBlanks_cons '-' (by decide) ((padded 4 n).toList ++ rest)
    simp [readYear?, hskip, hdigits, hsome, digitsValue_padded]
  · have hskip := @skipBlanks_cons '+' (by decide) ((padded 4 n).toList ++ rest)
    simp [readYear?, hskip, hdigits, hsome, digitsValue_padded]

theorem readYear?_plain {n : Nat} (hn : n ≤ 9999) (rest : List Char) :
    readYear? ((padded 4 n).toList ++ rest) = some ((n : Int), rest) := by
  have hskip := skipBlanks_digits (padded_ne_nil 4 n) (isDigit_padded 4 n) rest
  have hread := @readNumber?_padded 4 n (by decide) (Nat.lt_succ_of_le hn) rest
  have hdigit : ∀ c cs, (padded 4 n).toList ++ rest = c :: cs → c.isDigit = true := by
    intro c cs hcs
    cases hds : (padded 4 n).toList with
    | nil => exact absurd hds (padded_ne_nil 4 n)
    | cons d ds =>
      rw [hds] at hcs
      obtain ⟨rfl, -⟩ := List.cons.inj hcs
      exact isDigit_padded 4 n d (hds ▸ List.mem_cons_self)
  simp only [readYear?, hskip]
  split
  · next hcs => exact absurd (hdigit _ _ hcs) (by decide)
  · next hcs => exact absurd (hdigit _ _ hcs) (by decide)
  · simp [hread]

theorem readYear?_yearText (y : Int) {rest : List Char} (hrest : NoDigit rest) :
    readYear? ((yearText y).toList ++ rest) = some (y, rest) := by
  by_cases hplain : 0 ≤ y ∧ y ≤ 9999
  · have hread := @readYear?_plain y.toNat (by omega) rest
    have hy : (y.toNat : Int) = y := by omega
    simpa [yearText, hplain, hy] using hread
  · by_cases hnegative : y < 0
    · have hread := readYear?_signed '-' (.inl rfl) y.natAbs hrest
      have hy : -(y.natAbs : Int) = y := by omega
      rw [if_pos rfl, hy] at hread
      simpa [yearText, hplain, hnegative] using hread
    · have hread := readYear?_signed '+' (.inr rfl) y.natAbs hrest
      have hy : (y.natAbs : Int) = y := by omega
      rw [if_neg (by decide), hy] at hread
      simpa [yearText, hplain, hnegative] using hread

theorem readFraction?_padded {width n : Nat} (hwidth : 0 < width) (hnine : width ≤ 9)
    (hn : n < tenTo width) {rest : List Char} (hrest : NoDigit rest) :
    readFraction? ('.' :: ((padded width n).toList ++ rest)) =
      some (n * tenTo (9 - width), rest) := by
  have hlength := length_padded hwidth hn
  have hnone : NoDigit (rest.take (9 - width)) := by
    intro c hc
    cases rest with
    | nil => simp at hc
    | cons d rest =>
      cases hk : 9 - width with
      | zero => simp [hk] at hc
      | succ k => exact hrest c (by simpa [hk] using hc)
  have hdigits : (((padded width n).toList ++ rest).take 9).takeWhile Char.isDigit =
      (padded width n).toList := by
    rw [List.take_append, hlength, List.take_of_length_le (by omega)]
    exact takeWhile_span (isDigit_padded width n) hnone
  have hrest' := dropWhile_span (isDigit_padded width n) hrest
  have hsome := List.isEmpty_eq_false_iff.mpr (padded_ne_nil width n)
  simp [readFraction?, hdigits, hrest', hsome, digitsValue_padded, hlength]

theorem readFraction?_fractionText (i : Instant) (rest : List Char) :
    readFraction? (i.fractionText.toList ++ 'Z' :: rest) =
      some (i.nanos % 1000000000, 'Z' :: rest) := by
  have hrest : NoDigit ('Z' :: rest) := by simp [NoDigit]
  have hn : i.nanos % 1000000000 < 1000000000 := by omega
  simp only [fractionText]
  generalize i.nanos % 1000000000 = n at hn
  by_cases hzero : n = 0
  · simp [hzero, readFraction?]
  by_cases hmillis : n % 1000000 = 0
  · have hread := @readFraction?_padded 3 (n / 1000000) (by decide) (by decide)
      (show _ < 1000 by omega) _ hrest
    have hback : n / 1000000 * 1000000 = n := by omega
    simpa [hzero, hmillis, hback] using hread
  by_cases hmicros : n % 1000 = 0
  · have hread := @readFraction?_padded 6 (n / 1000) (by decide) (by decide)
      (show _ < 1000000 by omega) _ hrest
    have hback : n / 1000 * 1000 = n := by omega
    simpa [hzero, hmillis, hmicros, hback] using hread
  · have hread := @readFraction?_padded 9 n (by decide) (by decide) hn _ hrest
    simpa [hzero, hmillis, hmicros] using hread

/-- An instant that a clock can show: a year within the range, and a leap second only at the end of
a minute. -/
structure Valid (i : Instant) : Prop where
  least : yearRange.1 ≤ i.day.year
  greatest : i.day.year ≤ yearRange.2
  nanos : i.nanos < 1000000000 ∨ i.seconds % 60 = 59 ∧ i.nanos < 2000000000

/-- The second of a minute, with a leap second as the sixtieth. -/
def clockSecond (i : Instant) : Nat :=
  (i.seconds % daySeconds).toNat % 60 + if 1000000000 ≤ i.nanos then 1 else 0

theorem Valid.second_eq {i : Instant} (h : i.Valid) :
    (if i.clockSecond = 60 then (59, i.nanos % 1000000000 + 1000000000)
      else (i.clockSecond, i.nanos % 1000000000)) =
      ((i.seconds % daySeconds).toNat % 60, i.nanos) := by
  have hminute : i.seconds % 60 = ((i.seconds % daySeconds).toNat % 60 : Nat) := by
    simp only [daySeconds]
    omega
  simp only [clockSecond]
  rcases h.nanos with hnanos | ⟨hlast, hnanos⟩
  · simp only [if_neg (Nat.not_le.mpr hnanos), Nat.mod_eq_of_lt hnanos, Nat.add_zero]
    rw [if_neg (by omega)]
  · have hsecond : (i.seconds % daySeconds).toNat % 60 = 59 := by omega
    by_cases hleap : 1000000000 ≤ i.nanos
    · simp only [hsecond, hleap, if_true, Prod.mk.injEq, true_and]
      omega
    · simp only [hsecond, hleap, if_false]
      rw [if_neg (by decide), Nat.mod_eq_of_lt (by omega)]

theorem clockSecond_le (i : Instant) : i.clockSecond ≤ 60 := by
  simp only [clockSecond]
  split <;> omega

theorem Valid.ofLocal? {i : Instant} (h : i.Valid) :
    ofLocal? i.day ((i.seconds % daySeconds).toNat / 3600)
      ((i.seconds % daySeconds).toNat / 60 % 60) i.clockSecond (i.nanos % 1000000000) 0 =
      some i := by
  obtain ⟨hmonth, hmonths, hday, hdays⟩ : i.day.Valid := CalendarDay.valid_ofNumber _
  have hnumber : i.day.number = i.seconds / daySeconds := CalendarDay.number_ofNumber _
  have hyear : (CalendarDay.ofNumber (i.seconds / daySeconds)).year = i.day.year := rfl
  have hhour : (i.seconds % daySeconds).toNat / 3600 ≤ 23 := by
    simp only [daySeconds]
    omega
  have hseconds : i.seconds / daySeconds * daySeconds +
      ((i.seconds % daySeconds).toNat / 3600 : Nat) * 3600 +
      ((i.seconds % daySeconds).toNat / 60 % 60 : Nat) * 60 +
      ((i.seconds % daySeconds).toNat % 60 : Nat) - 0 = i.seconds := by
    simp only [daySeconds]
    omega
  have hleast := Int.not_lt.mpr h.least
  have hgreatest := Int.not_lt.mpr h.greatest
  have hsecond := i.clockSecond_le
  simp only [Instant.ofLocal?, h.second_eq, hnumber, hseconds, hyear, hleast, hgreatest]
  rw [if_neg (by simp; omega)]
  rfl

theorem toList_toText (i : Instant) :
    i.toText.toList = (yearText i.day.year).toList ++ '-' :: ((padded 2 i.day.month).toList ++
      '-' :: ((padded 2 i.day.day).toList ++
      'T' :: ((padded 2 ((i.seconds % daySeconds).toNat / 3600)).toList ++
      ':' :: ((padded 2 ((i.seconds % daySeconds).toNat / 60 % 60)).toList ++
      ':' :: ((padded 2 i.clockSecond).toList ++ (i.fractionText.toList ++ ['Z'])))))) := by
  simp [toText, dateText, clockText, clockSecond]

/-- The text of an instant that a clock can show is read back as this instant. -/
theorem parse?_toText {i : Instant} (h : i.Valid) : parse? i.toText = some i := by
  obtain ⟨-, hmonth, -, hday⟩ : i.day.Valid := CalendarDay.valid_ofNumber _
  have hdays : daysInMonth i.day.year i.day.month ≤ 31 := by
    simp only [daysInMonth]
    split <;> split <;> omega
  have hclock : (i.seconds % daySeconds).toNat < 86400 := by
    simp only [daySeconds]
    omega
  have hsecond := i.clockSecond_le
  have htwo : ∀ {n : Nat} (rest : List Char), n < 100 →
      readNumber? 2 ((padded 2 n).toList ++ rest) = some (n, rest) :=
    fun rest hn => readNumber?_padded (by decide) hn rest
  have hdash : ∀ cs, NoDigit ('-' :: cs) := by simp [NoDigit]
  simp only [parse?, toList_toText, readYear?_yearText _ (hdash _)]
  simp only [afterMark?_cons (show Text.isBlank '-' = false by decide),
    afterMark?_cons (show Text.isBlank ':' = false by decide),
    htwo _ (show i.day.month < 100 by omega), htwo _ (show i.day.day < 100 by omega),
    htwo _ (show (i.seconds % daySeconds).toNat / 3600 < 100 by omega),
    htwo _ (show (i.seconds % daySeconds).toNat / 60 % 60 < 100 by omega),
    htwo _ (show i.clockSecond < 100 by omega), readFraction?_fractionText, bind, Option.bind,
    isTimeMark, skipBlanks_cons (show Text.isBlank 'Z' = false by decide)]
  have hoffset : readOffset? ['Z'] = some (0, []) := by decide
  simp [hoffset, skipBlanks, h.ofLocal?]

/-! ### Instants that were read -/

theorem digitsValue_lt {ds : List Char} (hds : ∀ c ∈ ds, c.isDigit = true) :
    digitsValue ds < tenTo ds.length := by
  have hfold : ∀ n, ds.foldl (fun n c => n * 10 + (c.toNat - 48)) n < (n + 1) * tenTo ds.length := by
    induction ds with
    | nil => simp [tenTo]
    | cons c ds ih =>
      intro n
      have hc : c.toNat ≤ 57 := by
        have hdigit := hds c List.mem_cons_self
        simp only [Char.isDigit, Bool.and_eq_true, decide_eq_true_eq] at hdigit
        exact hdigit.2
      have hrest := ih (fun d hd => hds d (List.mem_cons_of_mem _ hd)) (n * 10 + (c.toNat - 48))
      have hbound : (n * 10 + (c.toNat - 48) + 1) * tenTo ds.length ≤
          (n + 1) * 10 * tenTo ds.length := Nat.mul_le_mul_right _ (by omega)
      have hpower : tenTo (ds.length + 1) = 10 * tenTo ds.length := Nat.pow_succ'
      rw [List.foldl_cons, List.length_cons, hpower, ← Nat.mul_assoc]
      exact Nat.lt_of_lt_of_le hrest hbound
  simpa [digitsValue] using hfold 0

theorem readFraction?_lt {cs rest : List Char} {n : Nat} (h : readFraction? cs = some (n, rest)) :
    n < 1000000000 := by
  unfold readFraction? at h
  split at h
  · next cs =>
    simp only at h
    split at h
    · cases h
    · have hdigits : ∀ c ∈ (cs.take 9).takeWhile Char.isDigit, c.isDigit = true :=
        fun c hc => List.all_eq_true.mp List.all_takeWhile c hc
      have hlength : ((cs.take 9).takeWhile Char.isDigit).length ≤ 9 :=
        Nat.le_trans (List.takeWhile_prefix _).length_le (List.length_take_le _ _)
      have hvalue := digitsValue_lt hdigits
      generalize (cs.take 9).takeWhile Char.isDigit = ds at h hvalue hlength
      obtain ⟨rfl, -⟩ := Prod.mk.inj (Option.some.inj h)
      have hpower : tenTo ds.length * tenTo (9 - ds.length) = tenTo 9 := by
        have hadd : 10 ^ (ds.length + (9 - ds.length)) = 10 ^ ds.length * 10 ^ (9 - ds.length) :=
          Nat.pow_add 10 _ _
        rw [Nat.add_sub_cancel' hlength] at hadd
        exact hadd.symm
      calc digitsValue ds * tenTo (9 - ds.length)
          < tenTo ds.length * tenTo (9 - ds.length) :=
            Nat.mul_lt_mul_of_pos_right hvalue (Nat.pow_pos (by decide))
        _ = tenTo 9 := hpower
  · obtain ⟨rfl, -⟩ := Prod.mk.inj (Option.some.inj h)
    decide

theorem readOffset?_minutes {cs rest : List Char} {offset : Int}
    (h : readOffset? cs = some (offset, rest)) : offset % 60 = 0 := by
  have hoffset : ∀ {c : Char} {a b : Nat} {r : List Char},
      (if (a * 3600 + b * 60 : Int) < daySeconds then
        some (if c = '+' then (a * 3600 + b * 60 : Int) else -(a * 3600 + b * 60 : Int), r)
      else none) = some (offset, rest) → offset % 60 = 0 := by
    intro c a b r h
    split at h
    · obtain ⟨rfl, -⟩ := Prod.mk.inj (Option.some.inj h)
      split <;> omega
    · simp at h
  unfold readOffset? at h
  cases hutc : startsWithUtc cs with
  | true =>
    simp only [hutc, if_true] at h
    obtain ⟨rfl, -⟩ := Prod.mk.inj (Option.some.inj h)
    rfl
  | false =>
    simp only [hutc, Bool.false_eq_true, if_false] at h
    match cs with
    | [] => simp at h
    | c :: rest =>
      simp only at h
      split at h
      · obtain ⟨rfl, -⟩ := Prod.mk.inj (Option.some.inj h)
        rfl
      · split at h
        · match rest with
          | [] | [_] => simp at h
          | h₁ :: h₂ :: rest =>
            simp only at h
            split at h
            · split at h
              · split at h
                · exact hoffset h
                · simp at h
              · simp at h
            · simp at h
        · simp at h

theorem valid_of_ofLocal? {c : CalendarDay} {hour minute second nanos : Nat} {offset : Int}
    {i : Instant} (h : ofLocal? c hour minute second nanos offset = some i)
    (hnanos : nanos < 1000000000) (hoffset : offset % 60 = 0) : i.Valid := by
  have hvalid : ∀ {second nanos : Nat} {seconds : Int},
      (nanos < 1000000000 ∨ second = 59 ∧ nanos < 2000000000) →
      seconds = c.number * daySeconds + hour * 3600 + minute * 60 + second - offset →
      (if (CalendarDay.ofNumber (seconds / daySeconds)).year < yearRange.1 ||
          yearRange.2 < (CalendarDay.ofNumber (seconds / daySeconds)).year then none
        else some (⟨seconds, nanos⟩ : Instant)) = some i → i.Valid := by
    intro second nanos seconds hclock hseconds h
    split at h
    · simp at h
    · next hyear =>
      obtain rfl := Option.some.inj h
      simp only [Bool.or_eq_true, decide_eq_true_eq, not_or, Int.not_lt] at hyear
      refine ⟨hyear.1, hyear.2, hclock.imp id fun hleap => ⟨?_, hleap.2⟩⟩
      simp only [hseconds, hleap.1, daySeconds]
      omega
  unfold ofLocal? at h
  simp only at h
  split at h
  · simp at h
  · by_cases hleap : second = 60
    · simp only [hleap, if_true] at h
      exact hvalid (.inr ⟨rfl, by omega⟩) rfl h
    · simp only [hleap, if_false] at h
      exact hvalid (.inl hnanos) rfl h

/-- Every instant that is read from a text is one that a clock can show. -/
theorem valid_of_parse? {s : String} {i : Instant} (h : parse? s = some i) : i.Valid := by
  simp only [parse?, Option.bind_eq_bind, Option.bind_eq_some_iff] at h
  obtain ⟨⟨year, cs⟩, -, cs', -, ⟨month, cs''⟩, -, cs₃, -, ⟨day, cs₄⟩, -, h⟩ := h
  cases cs₄ with
  | nil => simp at h
  | cons mark cs =>
    simp only at h
    split at h
    · simp only [Option.bind_eq_some_iff] at h
      obtain ⟨x₁, -, cs₅, -, x₂, -, cs₆, -, x₃, -, ⟨nanos, cs₇⟩, hnanos, ⟨offset, cs₈⟩, hoffset, h⟩ := h
      split at h
      · exact valid_of_ofLocal? h (readFraction?_lt hnanos) (readOffset?_minutes hoffset)
      · simp at h
    · simp at h

end Instant
end TicketSync
