import TicketSync.Json.Printer
import TicketSync.Json.Reader

/-! # JSON text on one line reads back

A value without doubles, whose integers have 64 bits and whose brackets are nested at most 127 deep,
is read back from its text as it is, with its fields in the order in which they are written. -/
namespace TicketSync

/-- A text that does not begin with a digit. -/
def NoDigit (cs : List Char) : Prop := ∀ c ∈ cs.head?, c.isDigit = false

/-- A span of characters of one kind ends where the next one is of another kind. -/
theorem takeWhile_span {p : Char → Bool} {ds rest : List Char} (hds : ∀ c ∈ ds, p c = true)
    (hrest : ∀ c ∈ rest.head?, p c = false) : (ds ++ rest).takeWhile p = ds := by
  rw [List.takeWhile_append_of_pos hds]
  cases rest with
  | nil => simp
  | cons c rest => simp [hrest c rfl]

theorem dropWhile_span {p : Char → Bool} {ds rest : List Char} (hds : ∀ c ∈ ds, p c = true)
    (hrest : ∀ c ∈ rest.head?, p c = false) : (ds ++ rest).dropWhile p = rest := by
  rw [List.dropWhile_append_of_pos hds]
  cases rest with
  | nil => simp
  | cons c rest => simp [hrest c rfl]

theorem ne_of_has {p : Char → Bool} {c d : Char} (hc : p c = true) (hd : p d = false) : c ≠ d := by
  rintro rfl
  cases hd.symm.trans hc

theorem isDigit_of_mem_decimal {n : Nat} {c : Char} (hc : c ∈ Nat.toDigits 10 n) :
    c.isDigit = true :=
  Nat.isDigit_of_mem_toDigits (by decide) (by decide) hc

theorem head?_decimal_ne_zero {n : Nat} (hn : 10 ≤ n) : (Nat.toDigits 10 n).head? ≠ some '0' := by
  induction n using Nat.strongRecOn with
  | ind n ih =>
    rw [Nat.toDigits_of_base_le (by decide) hn]
    by_cases hsmall : n / 10 < 10
    · rw [Nat.toDigits_of_lt_base hsmall]
      simp only [List.cons_append, List.head?_cons, ne_eq, Option.some.injEq, Nat.digitChar_eq_zero]
      omega
    · have hrest := ih (n / 10) (by omega) (by omega)
      cases hds : Nat.toDigits 10 (n / 10) with
      | nil => exact absurd hds Nat.toDigits_ne_nil
      | cons d ds => rwa [hds] at hrest

theorem le_ofDigitChars (n : Nat) (ds : List Char) : n ≤ Nat.ofDigitChars 10 ds n := by
  induction ds generalizing n with
  | nil => simp
  | cons d ds ih =>
    rw [Nat.ofDigitChars_cons]
    have hrest := ih (10 * n + (d.toNat - '0'.toNat))
    omega

/-- Digits that are read from the left make up the number that they spell. -/
theorem foldl_digits (n : Nat) (ds : List Char) :
    ds.foldl (fun n c => n * 10 + (c.toNat - 48)) n = Nat.ofDigitChars 10 ds n := by
  rw [Nat.ofDigitChars_eq_foldl]
  congr 1
  funext n c
  rw [Nat.mul_comm]
  rfl

namespace Json

/-! ### Numbers -/

theorem wholeDigits_eq {n : Nat} {ds : List Char} (h : Nat.ofDigitChars 10 ds n ≤ maxWord) :
    wholeDigits n ds = (Nat.ofDigitChars 10 ds n, 0) := by
  induction ds generalizing n with
  | nil => simp [wholeDigits]
  | cons c ds ih =>
    rw [Nat.ofDigitChars_cons] at h ⊢
    have hdigit : n * 10 + digit c = 10 * n + (c.toNat - '0'.toNat) := by
      rw [Nat.mul_comm]
      rfl
    have hle := Nat.le_trans (le_ofDigitChars (10 * n + (c.toNat - '0'.toNat)) ds) h
    rw [wholeDigits, hdigit, if_neg (by omega), ih h]

/-- A text after which a number does not go on. -/
def EndsNumber (cs : List Char) : Prop :=
  ∀ c ∈ cs.head?, c.isDigit = false ∧ c ≠ '.' ∧ c ≠ 'e' ∧ c ≠ 'E'

theorem EndsNumber.noDigit {cs : List Char} (h : EndsNumber cs) : NoDigit cs :=
  fun c hc => (h c hc).1

theorem readExponent_none {cs : List Char} (h : EndsNumber cs) :
    readExponent cs = some (none, cs) := by
  cases cs with
  | nil => rfl
  | cons c cs =>
    obtain ⟨-, -, he, hE⟩ := h c rfl
    simp [readExponent, he, hE]

theorem readNumber_decimal (negative : Bool) {n : Nat} (hn : n ≤ maxWord) {rest : List Char}
    (hrest : EndsNumber rest) :
    readNumber negative (Nat.toDigits 10 n ++ rest) =
      (wholeNumber? negative n).map fun v => (v, rest) := by
  have hdigits : ∀ c ∈ Nat.toDigits 10 n, c.isDigit = true := fun c => isDigit_of_mem_decimal
  have hwhole : wholeDigits 0 (Nat.toDigits 10 n) = (n, 0) := by
    rw [wholeDigits_eq (by rwa [Nat.ofDigitChars_ten_toDigits]), Nat.ofDigitChars_ten_toDigits]
  have hplain : ((Nat.toDigits 10 n).isEmpty || (1 < (Nat.toDigits 10 n).length &&
      (Nat.toDigits 10 n).head? = some '0')) = false := by
    by_cases hsmall : n < 10
    · rw [Nat.toDigits_of_lt_base hsmall]
      simp
    · simp [head?_decimal_ne_zero (Nat.le_of_not_lt hsmall), Nat.toDigits_ne_nil]
  have hdot : ∀ cs, rest ≠ '.' :: cs := by
    rintro cs rfl
    exact (hrest '.' rfl).2.1 rfl
  simp only [readNumber, takeWhile_span hdigits hrest.noDigit,
    dropWhile_span hdigits hrest.noDigit, hplain, hwhole, Bool.false_eq_true, if_false]
  -- No point follows, so the number is whole unless an exponent follows.
  cases wholeNumber? negative n <;> simp [readExponent_none hrest]

/-! ### Strings -/

theorem readString_plain {c : Char} (hquote : c ≠ '"') (hslash : c ≠ '\\') (hc : 32 ≤ c.toNat)
    (cs : List Char) : readString (c :: cs) = (readString cs).map fun x => (c :: x.1, x.2) := by
  have hlow : ¬c.toNat < 32 := by omega
  simp [readString, hslash, hlow]

/-- A character below U+0020 that has no letter is written by its code point. -/
theorem hexQuad?_control : ∀ n < 16, hexQuad? '0' '0' '0' n.digitChar = some n ∧
    hexQuad? '0' '0' '1' n.digitChar = some (16 + n) := by
  decide

theorem readString_code {a b : Char} {n : Nat} (hquad : hexQuad? '0' '0' a b = some n)
    (hn : n < 0xD800) (cs : List Char) :
    readString ('\\' :: 'u' :: '0' :: '0' :: a :: b :: cs) =
      (readString cs).map fun x => (Char.ofNat n :: x.1, x.2) := by
  have hlow : ¬0xD800 ≤ n := by omega
  have hlow' : ¬0xDC00 ≤ n := by omega
  simp [readString, hquad, hlow, hlow']

theorem readString_escape (c : Char) (cs : List Char) :
    readString (escape c ++ cs) = (readString cs).map fun x => (c :: x.1, x.2) := by
  unfold escape
  split
  · next h => subst h; simp [readString, unescape?]
  split
  · next h => subst h; simp [readString, unescape?]
  split
  · next h => subst h; simp [readString, unescape?]
  split
  · next h => subst h; simp [readString, unescape?]
  split
  · next h => subst h; simp [readString, unescape?]
  split
  · next h =>
    have hc : c = Char.ofNat 8 := by rw [← h, Char.ofNat_toNat]
    subst hc
    simp [readString, unescape?]
  split
  · next h =>
    have hc : c = Char.ofNat 12 := by rw [← h, Char.ofNat_toNat]
    subst hc
    simp [readString, unescape?]
  split
  · next h =>
    have hcode := readString_code (hexQuad?_control c.toNat h).1 (by omega) cs
    rw [Char.ofNat_toNat] at hcode
    rw [Text.hexDigits, Nat.toDigits_of_lt_base h]
    exact hcode
  split
  · next hlow h =>
    have hrest : c.toNat = 16 * 1 + c.toNat % 16 := by omega
    have hcode := readString_code (hexQuad?_control (c.toNat % 16) (by omega)).2 (by omega) cs
    have hdigits : Text.hexDigits c.toNat = ['1', (c.toNat % 16).digitChar] := by
      rw [Text.hexDigits, Nat.toDigits_of_base_le (by decide) (by omega),
        Nat.toDigits_of_lt_base (by omega), show c.toNat / 16 = 1 by omega]
      rfl
    rw [← hrest, Char.ofNat_toNat] at hcode
    rw [hdigits]
    exact hcode
  · next hquote hslash _ _ _ _ _ _ h => exact readString_plain hquote hslash (by omega) cs

theorem readString_print (s rest : List Char) :
    readString (s.flatMap escape ++ '"' :: rest) = some (s, rest) := by
  induction s with
  | nil => simp [readString]
  | cons c s ih =>
    rw [List.flatMap_cons, List.append_assoc, readString_escape, ih]
    rfl

/-! ### Values -/

mutual
/-- A value without doubles, with integers of 64 bits and at most `depth` brackets in one another. -/
def Fits : (depth : Nat) → Json → Prop
  | _, .null | _, .bool _ | _, .str _ => True
  | _, .int i => -(twoTo 63) ≤ i ∧ i ≤ maxWord
  | _, .real _ => False
  | 0, .arr _ | 0, .obj _ => False
  | depth + 1, .arr items => ItemsFit depth items
  | depth + 1, .obj fields => FieldsFit depth fields

/-- Values that all fit. -/
def ItemsFit : (depth : Nat) → List Json → Prop
  | _, [] => True
  | depth, v :: rest => v.Fits depth ∧ ItemsFit depth rest

/-- Fields whose values all fit. -/
def FieldsFit : (depth : Nat) → List (String × Json) → Prop
  | _, [] => True
  | depth, (_, v) :: rest => v.Fits depth ∧ FieldsFit depth rest
end

theorem skipBlanks_cons {c : Char} (hc : isJsonBlank c = false) (cs : List Char) :
    skipBlanks (c :: cs) = c :: cs := by
  simp [skipBlanks, hc]

theorem isJsonBlank_of_isDigit {c : Char} (hc : c.isDigit = true) : isJsonBlank c = false := by
  have hne (d : Char) (hd : d.isDigit = false) : c ≠ d := ne_of_has hc hd
  simp [isJsonBlank, hne ' ' rfl, hne '\n' rfl, hne '\t' rfl, hne '\r' rfl]

/-- How a text begins that holds a value: neither with a blank nor with the end of an array. -/
def Begins (cs : List Char) : Prop := ∃ c rest, cs = c :: rest ∧ isJsonBlank c = false ∧ c ≠ ']'

theorem begins_decimal (n : Nat) : Begins (Nat.toDigits 10 n) := by
  cases hds : Nat.toDigits 10 n with
  | nil => exact absurd hds Nat.toDigits_ne_nil
  | cons c ds =>
    have hc : c.isDigit = true := isDigit_of_mem_decimal (n := n) (hds ▸ List.mem_cons_self)
    refine ⟨c, ds, rfl, isJsonBlank_of_isDigit hc, ?_⟩
    rintro rfl
    cases hc

theorem begins_print {v : Json} {depth : Nat} (hv : v.Fits depth) : Begins v.print := by
  cases v with
  | null => exact ⟨_, _, rfl, rfl, by decide⟩
  | bool b => cases b <;> exact ⟨_, _, rfl, rfl, by decide⟩
  | int i =>
    cases i with
    | ofNat n => exact begins_decimal n
    | negSucc n => exact ⟨_, _, rfl, rfl, by decide⟩
  | real x => exact absurd hv (by simp [Fits])
  | str s => exact ⟨_, _, rfl, rfl, by decide⟩
  | arr items => cases items <;> exact ⟨_, _, rfl, rfl, by decide⟩
  | obj fields => cases fields <;> exact ⟨_, _, rfl, rfl, by decide⟩

theorem readValue_digit {c : Char} (hc : c.isDigit = true) (depth fuel : Nat) (cs : List Char) :
    readValue depth (fuel + 1) (c :: cs) = readNumber false (c :: cs) := by
  rw [readValue, skipBlanks_cons (isJsonBlank_of_isDigit hc)]
  split
  all_goals first
    | rfl
    | next heq =>
      obtain ⟨rfl, -⟩ := List.cons.inj heq
      cases hc

theorem readValue_int {i : Int} (hleast : -(twoTo 63) ≤ i) (hgreatest : i ≤ maxWord)
    (depth fuel : Nat) {rest : List Char} (hrest : EndsNumber rest) :
    readValue depth (fuel + 1) (printInt i ++ rest) = some (.int i, rest) := by
  cases i with
  | ofNat n =>
    have hn : n ≤ maxWord := Int.ofNat_le.mp hgreatest
    have hread := readNumber_decimal false hn hrest
    cases hds : Nat.toDigits 10 n with
    | nil => exact absurd hds Nat.toDigits_ne_nil
    | cons c ds =>
      have hc : c.isDigit = true := isDigit_of_mem_decimal (n := n) (hds ▸ List.mem_cons_self)
      rw [hds] at hread
      rw [printInt, hds, List.cons_append, readValue_digit hc]
      simpa [wholeNumber?] using hread
  | negSucc n =>
    have hn : n + 1 ≤ twoTo 63 := by omega
    have hword : twoTo 63 ≤ maxWord := by decide
    have hread := readNumber_decimal true (Nat.le_trans hn hword) hrest
    rw [printInt, List.cons_append, readValue, skipBlanks_cons rfl]
    simpa [wholeNumber?, hn, Int.negSucc_eq] using hread

theorem endsNumber_cons {c : Char} (hc : c = ',' ∨ c = ']' ∨ c = '\x7d') (rest : List Char) :
    EndsNumber (c :: rest) := by
  intro d hd
  obtain rfl : c = d := by simpa using hd
  rcases hc with rfl | rfl | rfl <;> decide

theorem endsNumber_items (items : List Json) (rest : List Char) :
    EndsNumber (printItems items ++ rest) := by
  cases items with
  | nil => exact endsNumber_cons (.inr (.inl rfl)) _
  | cons v items => exact endsNumber_cons (.inl rfl) _

theorem endsNumber_fields (fields : List (String × Json)) (rest : List Char) :
    EndsNumber (printFields fields ++ rest) := by
  cases fields with
  | nil => exact endsNumber_cons (.inr (.inr rfl)) _
  | cons f fields => exact endsNumber_cons (.inl rfl) _

theorem Begins.length_pos {cs : List Char} (h : Begins cs) : 0 < cs.length := by
  obtain ⟨c, rest, rfl, -⟩ := h
  simp

theorem printItems_length_pos (items : List Json) : 0 < (printItems items).length := by
  cases items <;> simp [printItems]

theorem printFields_length_pos (fields : List (String × Json)) :
    0 < (printFields fields).length := by
  cases fields <;> simp [printFields]

/-- An array that is not empty is read item by item. -/
theorem readValue_items (depth fuel : Nat) {cs : List Char} (h : Begins cs) :
    readValue (depth + 1) (fuel + 1) ('[' :: cs) =
      (readItems depth fuel cs).map fun x => (.arr x.1, x.2) := by
  obtain ⟨c, rest, rfl, hc, hend⟩ := h
  rw [readValue, skipBlanks_cons rfl]
  simp only [skipBlanks_cons hc]
  split
  · next heq => exact absurd (List.cons.inj heq).1 hend
  · rfl

/-- An object that is not empty is read field by field. -/
theorem readValue_fields (depth fuel : Nat) (k : String) (cs : List Char) :
    readValue (depth + 1) (fuel + 1) ('\x7b' :: (printString k ++ cs)) =
      (readFields depth fuel (printString k ++ cs)).map fun x => (.obj x.1, x.2) := by
  rw [readValue, skipBlanks_cons rfl]
  simp [printString, skipBlanks_cons, isJsonBlank]

mutual
/-- The fuel pays for two calls at each character: one for a value and one for its place in a list. -/
theorem readValue_print (v : Json) {depth : Nat} (fuel : Nat) {rest : List Char} (hv : v.Fits depth)
    (hfuel : 2 * v.print.length ≤ fuel) (hrest : EndsNumber rest) :
    readValue depth fuel (v.print ++ rest) = some (v, rest) := by
  have hpos := (begins_print hv).length_pos
  cases fuel with
  | zero => omega
  | succ fuel =>
  cases v with
  | null => simp [print, readValue, skipBlanks_cons, isJsonBlank, afterWord]
  | bool b => cases b <;> simp [print, readValue, skipBlanks_cons, isJsonBlank, afterWord]
  | int i => exact readValue_int hv.1 hv.2 depth fuel hrest
  | real x => exact absurd hv (by simp [Fits])
  | str s =>
    simp [print, printString, readValue, skipBlanks_cons, isJsonBlank, readString_print]
  | arr items =>
    cases depth with
    | zero => exact absurd hv (by cases items <;> simp [Fits])
    | succ depth =>
      cases items with
      | nil => simp [print, readValue, skipBlanks_cons, isJsonBlank]
      | cons w items =>
        have hfits : w.Fits depth ∧ ItemsFit depth items := by simpa [Fits, ItemsFit] using hv
        have hbegins : Begins (w.print ++ (printItems items ++ rest)) := by
          obtain ⟨c, cs, hcs, hc⟩ := begins_print hfits.1
          exact ⟨c, cs ++ (printItems items ++ rest), by rw [hcs]; rfl, hc⟩
        have hread := readItems_print w items fuel rest hfits.1 hfits.2 (by
          simp only [print, List.length_cons, List.cons_append] at hfuel
          omega)
        rw [List.append_assoc] at hread
        rw [print, List.cons_append, List.cons_append, List.append_assoc,
          readValue_items _ _ hbegins, hread]
        rfl
  | obj fields =>
    cases depth with
    | zero => exact absurd hv (by cases fields <;> simp [Fits])
    | succ depth =>
      cases fields with
      | nil => simp [print, readValue, skipBlanks_cons, isJsonBlank]
      | cons f fields =>
        obtain ⟨k, w⟩ := f
        have hfits : w.Fits depth ∧ FieldsFit depth fields := by simpa [Fits, FieldsFit] using hv
        have hread := readFields_print k w fields fuel rest hfits.1 hfits.2 (by
          simp only [print, List.length_cons, List.cons_append, List.length_append] at hfuel ⊢
          omega)
        simp only [List.append_assoc, List.cons_append] at hread
        simp only [print, List.cons_append, List.append_assoc]
        rw [readValue_fields, hread]
        rfl
termination_by fuel

theorem readItems_print (v : Json) (items : List Json) {depth : Nat} (fuel : Nat) (rest : List Char)
    (hv : v.Fits depth) (hitems : ItemsFit depth items)
    (hfuel : 2 * (v.print ++ printItems items).length ≤ fuel) :
    readItems depth fuel (v.print ++ printItems items ++ rest) = some (v :: items, rest) := by
  have hpos := printItems_length_pos items
  rw [List.length_append] at hfuel
  cases fuel with
  | zero => omega
  | succ fuel =>
  have hread := readValue_print v fuel hv (by omega) (endsNumber_items items rest)
  rw [List.append_assoc, readItems, hread]
  cases items with
  | nil => simp [printItems, skipBlanks_cons, isJsonBlank]
  | cons w items =>
    have hfits : w.Fits depth ∧ ItemsFit depth items := by simpa [ItemsFit] using hitems
    have hrest := readItems_print w items fuel rest hfits.1 hfits.2 (by
      simp only [printItems, List.length_cons, List.cons_append, List.length_append] at hfuel ⊢
      omega)
    rw [List.append_assoc] at hrest
    simp [printItems, skipBlanks_cons, isJsonBlank, hrest]
termination_by fuel

theorem readFields_print (k : String) (v : Json) (fields : List (String × Json))
    {depth : Nat} (fuel : Nat) (rest : List Char) (hv : v.Fits depth)
    (hfields : FieldsFit depth fields)
    (hfuel : 2 * (printString k ++ ':' :: v.print ++ printFields fields).length ≤ fuel) :
    readFields depth fuel (printString k ++ ':' :: v.print ++ printFields fields ++ rest) =
      some ((k, v) :: fields, rest) := by
  have hpos := printFields_length_pos fields
  simp only [List.length_append, List.length_cons] at hfuel
  cases fuel with
  | zero => omega
  | succ fuel =>
  have hkey := readString_print k.toList (':' :: (v.print ++ (printFields fields ++ rest)))
  have hread := readValue_print v fuel hv (by omega) (endsNumber_fields fields rest)
  rw [readFields]
  simp only [printString, List.cons_append, List.append_assoc, List.nil_append,
    skipBlanks_cons (show isJsonBlank '"' = false from rfl)]
  simp only [hkey, bind, Option.bind, skipBlanks_cons (show isJsonBlank ':' = false from rfl), hread]
  cases fields with
  | nil => simp [printFields, skipBlanks_cons, isJsonBlank]
  | cons f fields =>
    obtain ⟨l, w⟩ := f
    have hfits : w.Fits depth ∧ FieldsFit depth fields := by simpa [FieldsFit] using hfields
    have hrest := readFields_print l w fields fuel rest hfits.1 hfits.2 (by
      simp only [printFields, List.length_cons, List.cons_append, List.length_append] at hfuel ⊢
      omega)
    simp only [List.append_assoc, List.cons_append] at hrest
    simp [printFields, skipBlanks_cons, isJsonBlank, hrest]
termination_by fuel
end

/-- A value that fits is read back from its text. -/
theorem readChars?_print {v : Json} (hv : v.Fits maxDepth) : readChars? v.print = some v := by
  have hread := @readValue_print v maxDepth (2 * v.print.length + 1) [] hv (by omega)
    (by simp [EndsNumber])
  rw [List.append_nil] at hread
  unfold readChars?
  rw [hread]
  rfl

end Json
end TicketSync
