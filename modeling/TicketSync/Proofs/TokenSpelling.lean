import TicketSync.Proofs.ExpressionBraces
import TicketSync.Proofs.JsonText

/-! # Tokens and their spelling

The tokens that some text has are the lexable ones: a name in a path and the name of a function have
their characters only, and a number has 64 bits. Spelled with blanks between them they are scanned
as they are, because each ends at the blank behind it. So the pipelines that have a source at all
are read back from the spelling of their own tokens. -/
namespace TicketSync.Template

open Text

/-- A name in a path. -/
def IsFieldName (s : String) : Prop := s.toList ≠ [] ∧ ∀ c ∈ s.toList, isFieldChar c = true

/-- A name of a function, or of a constant. -/
def IsName (s : String) : Prop :=
  (∃ c ∈ s.toList.head?, isNameStart c = true) ∧ ∀ d ∈ s.toList.tail, isNameChar d = true

/-- A token that a text can have. -/
def Token.Lexable : Token → Prop
  | .field path => ∀ s ∈ path, IsFieldName s
  | .number n => -(twoTo 63 : Int) ≤ n ∧ n < (twoTo 63 : Int)
  | .name s => IsName s
  | _ => True

instance : DecidablePred IsFieldName := fun s =>
  decidable_of_iff (s.toList ≠ [] ∧ s.toList.all isFieldChar = true) (by simp [IsFieldName])

instance : DecidablePred IsName := fun s =>
  decidable_of_iff (s.toList.head?.any isNameStart = true ∧ s.toList.tail.all isNameChar = true)
    (by simp [IsName, Option.any_eq_true])

instance : DecidablePred Token.Lexable
  | .field path => inferInstanceAs (Decidable (∀ s ∈ path, IsFieldName s))
  | .number _ => inferInstanceAs (Decidable (_ ∧ _))
  | .name s => inferInstanceAs (Decidable (IsName s))
  | .text _ | .openParen | .closeParen | .pipe => isTrue trivial

/-- Tokens with single blanks between them. -/
def spellTokens (ts : List Token) : List Char := [' '].intercalate (ts.map Token.spell)

variable {fs : Functions} {fuel : Nat} {cs ds rest : List Char} {c : Char} {t : Token}
  {ts : List Token}

theorem intercalate_cons_eq {α : Type} (a : α) (xs : List α) (xss : List (List α)) :
    [a].intercalate (xs :: xss) = xs ++ xss.flatMap (a :: ·) := by
  induction xss generalizing xs with
  | nil => simp
  | cons ys xss ih => rw [List.intercalate_cons_cons, ih, List.flatMap_cons, List.append_assoc]; rfl

/-! ### A token ends at the blank behind it -/

/-- What may follow a token that is spelled: nothing, or a blank. -/
def EndsToken (rest : List Char) : Prop := ∀ c ∈ rest.head?, c = ' '

theorem EndsToken.stops (h : EndsToken rest) {p : Char → Bool} (hp : p ' ' = false) :
    ∀ c ∈ rest.head?, p c = false := by
  intro c hc
  rw [h c hc, hp]

theorem readPath_end (h : EndsToken rest) (fuel : Nat) : readPath fuel rest = ([], rest) := by
  cases fuel with
  | zero => rfl
  | succ fuel =>
    have hstop := h.stops (show isFieldChar ' ' = false by decide)
    have htake : rest.takeWhile isFieldChar = [] := @takeWhile_span _ [] rest (by simp) hstop
    have hdrop : rest.dropWhile isFieldChar = rest := @dropWhile_span _ [] rest (by simp) hstop
    simp [readPath, htake, hdrop]

theorem readPath_names {name : String} {path : List String} (hname : IsFieldName name)
    (hpath : ∀ s ∈ path, IsFieldName s) (hrest : EndsToken rest) (hfuel : path.length < fuel) :
    readPath fuel (name.toList ++ (path.flatMap (fun s => '.' :: s.toList) ++ rest)) =
      (name :: path, rest) := by
  induction path generalizing name fuel with
  | nil =>
    obtain ⟨fuel, rfl⟩ := Nat.exists_eq_succ_of_ne_zero (Nat.ne_zero_of_lt hfuel)
    have hstop := hrest.stops (show isFieldChar ' ' = false by decide)
    have hpoint : ∀ cs, rest ≠ '.' :: cs := by
      rintro cs rfl
      exact absurd (hrest '.' rfl) (by decide)
    simp [readPath, takeWhile_span hname.2 hstop, dropWhile_span hname.2 hstop, hname.1]
  | cons next path ih =>
    obtain ⟨fuel, rfl⟩ := Nat.exists_eq_succ_of_ne_zero (Nat.ne_zero_of_lt hfuel)
    obtain ⟨hnext, hpath⟩ := List.forall_mem_cons.mp hpath
    have hstop : ∀ c ∈ ((next :: path).flatMap (fun s => '.' :: s.toList) ++ rest).head?,
        isFieldChar c = false := by
      rintro c ⟨⟩
      decide
    have hmore := ih hnext hpath (Nat.lt_of_succ_lt_succ hfuel)
    simp only [readPath, takeWhile_span hname.2 hstop, dropWhile_span hname.2 hstop]
    simp [hname.1, hmore]

theorem length_le_points (path : List String) :
    path.length ≤ (path.flatMap fun s => '.' :: s.toList).length := by
  induction path with
  | nil => exact Nat.le_refl 0
  | cons name path ih =>
    simp only [List.flatMap_cons, List.cons_append, List.length_cons, List.length_append]
    omega

theorem readPath_spell {path : List String} (hpath : ∀ s ∈ path, IsFieldName s)
    (hrest : EndsToken rest) (hfuel : (".".intercalate path).toList.length ≤ fuel) :
    readPath fuel ((".".intercalate path).toList ++ rest) = (path, rest) := by
  cases path with
  | nil => exact readPath_end hrest fuel
  | cons name path =>
    obtain ⟨hname, hpath⟩ := List.forall_mem_cons.mp hpath
    have hspell : (".".intercalate (name :: path)).toList =
        name.toList ++ path.flatMap fun s => '.' :: s.toList := by
      rw [String.toList_intercalate, List.map_cons]
      exact (intercalate_cons_eq '.' _ _).trans (by rw [List.flatMap_map])
    rw [hspell, List.length_append] at hfuel
    rw [hspell, List.append_assoc]
    have hfirst := List.length_pos_iff.mpr hname.1
    have hothers := length_le_points path
    exact readPath_names hname hpath hrest (by omega)

/-- Only the quotation mark and the backslash are escaped, and both come back. -/
theorem readQuoted_spell (cs rest : List Char) :
    readQuoted (cs.flatMap spellChar ++ '"' :: rest) = .ok (cs, rest) := by
  induction cs with
  | nil => simp [readQuoted]
  | cons c cs ih =>
    rw [List.flatMap_cons, List.append_assoc]
    by_cases hquote : c = '"'
    · subst hquote
      simp [spellChar, readQuoted, unescape?, ih, Except.map]
    · by_cases hescape : c = '\\'
      · subst hescape
        simp [spellChar, readQuoted, unescape?, ih, Except.map]
      · have hspell : spellChar c = [c] := by simp [spellChar, hquote, hescape]
        rw [hspell, List.singleton_append, readQuoted_cons hquote hescape, ih]
        rfl

theorem digitsValue_decimal (n : Nat) : digitsValue (Nat.toDigits 10 n) = n := by
  rw [digitsValue, foldl_digits, Nat.ofDigitChars_ten_toDigits]

theorem readToken_digits {d : Char} {n : Nat} (hdigits : Nat.toDigits 10 n = d :: ds)
    (hn : n < twoTo 63) (hrest : EndsToken rest) :
    readToken d (ds ++ rest) = .ok (.number n, rest) := by
  have hall : ∀ c ∈ d :: ds, c.isDigit = true := by
    intro c hc
    exact isDigit_of_mem_decimal (hdigits ▸ hc)
  obtain ⟨hd, hds⟩ := List.forall_mem_cons.mp hall
  have hstop := hrest.stops (show Char.isDigit ' ' = false by decide)
  have hvalue : digitsValue (d :: ds) = n := by rw [← hdigits, digitsValue_decimal]
  have hne (e : Char) (he : e.isDigit = false) : d ≠ e := ne_of_has hd he
  simp [readToken, takeWhile_span hds hstop, dropWhile_span hds hstop, hd, hvalue, readInteger, hn,
    hne '(' (by decide), hne ')' (by decide), hne '|' (by decide), hne '.' (by decide),
    hne '"' (by decide), hne '`' (by decide), Except.map]

theorem readToken_negative {n : Nat} (hn : n ≤ twoTo 63) (hrest : EndsToken rest) :
    readToken '-' (Nat.toDigits 10 n ++ rest) = .ok (.number (-n), rest) := by
  have hds : ∀ c ∈ Nat.toDigits 10 n, c.isDigit = true := fun c => isDigit_of_mem_decimal
  have hstop := hrest.stops (show Char.isDigit ' ' = false by decide)
  simp [readToken, takeWhile_span hds hstop, dropWhile_span hds hstop, digitsValue_decimal,
    readInteger, hn, Except.map]

theorem not_isNameStart_of_isDigit (h : c.isDigit = true) : isNameStart c = false := by
  have hdigits : ∀ n < 10, isNameStart (Char.ofNat (48 + n)) = false := by decide
  obtain ⟨hlo, hhi⟩ := Char.isDigit_iff_toNat.mp h
  change 48 ≤ c.toNat at hlo
  change c.toNat ≤ 57 at hhi
  have hc := hdigits (c.toNat - 48) (by omega)
  rwa [Nat.add_sub_cancel' hlo, Char.ofNat_toNat] at hc

/-- A character is not blank that has what no blanks have. -/
theorem not_isBlank_of {p : Char → Bool} (hp : ∀ bs, Blanks bs → ∀ c ∈ bs, p c = false)
    (h : p c = true) : isBlank c = false := by
  rw [Bool.eq_false_iff]
  intro hblank
  have hblanks : Blanks [c] := List.forall_mem_singleton.mpr hblank
  cases (hp [c] hblanks c List.mem_cons_self).symm.trans h

theorem isNameChar_of_isNameStart (h : isNameStart c = true) : isNameChar c = true := by
  simp only [isNameStart, isNameChar, isAlphanumeric, Bool.or_eq_true] at h ⊢
  rcases h with h | h
  · exact .inl (.inl h)
  · exact .inr h

theorem readToken_name (hc : isNameStart c = true) (hcs : ∀ d ∈ cs, isNameChar d = true)
    (hrest : EndsToken rest) :
    readToken c (cs ++ rest) = .ok (.name (String.ofList (c :: cs)), rest) := by
  have hstop := hrest.stops (show isNameChar ' ' = false by decide)
  have hdigit : c.isDigit = false := by
    rw [Bool.eq_false_iff]
    intro hdigit
    cases (not_isNameStart_of_isDigit hdigit).symm.trans hc
  have hne (e : Char) (he : isNameStart e = false) : c ≠ e := ne_of_has hc he
  simp [readToken, takeWhile_span hcs hstop, dropWhile_span hcs hstop, hc, hdigit,
    hne '(' (by decide), hne ')' (by decide), hne '|' (by decide), hne '.' (by decide),
    hne '"' (by decide), hne '`' (by decide), hne '-' (by decide)]

/-- A token that is spelled is read from its first character, whatever blank text is behind it. -/
theorem readToken_spell (ht : t.Lexable) (hrest : EndsToken rest) :
    ∃ c cs, t.spell = c :: cs ∧ isBlank c = false ∧ readToken c (cs ++ rest) = .ok (t, rest) := by
  cases t with
  | openParen => exact ⟨'(', [], rfl, by decide, rfl⟩
  | closeParen => exact ⟨')', [], rfl, by decide, rfl⟩
  | pipe => exact ⟨'|', [], rfl, by decide, rfl⟩
  | field path =>
    refine ⟨'.', (".".intercalate path).toList, rfl, by decide, ?_⟩
    have hlength : (".".intercalate path).toList.length ≤
        ((".".intercalate path).toList ++ rest).length := by
      rw [List.length_append]
      exact Nat.le_add_right _ _
    have hpath := readPath_spell ht hrest (Nat.le_succ_of_le hlength)
    simp only [readToken, List.length_append] at hpath ⊢
    simp only [hpath]
    rfl
  | text s =>
    refine ⟨'"', s.toList.flatMap spellChar ++ ['"'], rfl, by decide, ?_⟩
    simp [readToken, readQuoted_spell, Except.map]
  | name s =>
    obtain ⟨⟨c, hhead, hc⟩, hcs⟩ := ht
    obtain ⟨cs, hs⟩ := List.head?_eq_some_iff.mp hhead
    rw [hs, List.tail_cons] at hcs
    have hblank := not_isBlank_of (fun _ => Blanks.not_nameChar) (isNameChar_of_isNameStart hc)
    refine ⟨c, cs, hs, hblank, ?_⟩
    rw [readToken_name hc hcs hrest, ← hs, String.ofList_toList]
  | number n =>
    obtain ⟨hleast, hgreatest⟩ := ht
    cases n with
    | ofNat n =>
      have hspell : (Token.number (.ofNat n)).spell = Nat.toDigits 10 n := by
        rw [Token.spell, Int.toString_eq_repr, Int.repr, Nat.toList_repr]
      obtain ⟨d, ds, hdigits⟩ := List.exists_cons_of_ne_nil
        (show Nat.toDigits 10 n ≠ [] from Nat.toDigits_ne_nil)
      have hd : d.isDigit = true := isDigit_of_mem_decimal (hdigits ▸ List.mem_cons_self)
      exact ⟨d, ds, hspell.trans hdigits, not_isBlank_of (fun _ => Blanks.not_digit) hd,
        readToken_digits hdigits (Int.ofNat_lt.mp hgreatest) hrest⟩
    | negSucc n =>
      have hspell : (Token.number (.negSucc n)).spell = '-' :: Nat.toDigits 10 (n + 1) := by
        rw [Token.spell, Int.toString_eq_repr, Int.repr, String.toList_append, Nat.toList_repr]
        rfl
      refine ⟨'-', Nat.toDigits 10 (n + 1), hspell, by decide, ?_⟩
      exact readToken_negative (by omega) hrest

/-! ### A spelling is scanned as its tokens -/

theorem endsToken_spelled (ts : List Token) : EndsToken (ts.flatMap fun t => ' ' :: t.spell) := by
  cases ts with
  | nil => exact fun c hc => nomatch hc
  | cons t ts =>
    rintro c ⟨⟩
    rfl

theorem scanFrom_spelled (hts : ∀ t ∈ ts, t.Lexable)
    (hfuel : (ts.flatMap fun t => ' ' :: t.spell).length ≤ fuel) :
    scanFrom fuel (ts.flatMap fun t => ' ' :: t.spell) = .ok ts := by
  induction ts generalizing fuel with
  | nil => cases fuel <;> rfl
  | cons t ts ih =>
    obtain ⟨ht, hts⟩ := List.forall_mem_cons.mp hts
    obtain ⟨c, cs, hspell, hc, hread⟩ := readToken_spell ht (endsToken_spelled ts)
    rw [List.flatMap_cons, hspell, List.cons_append, List.cons_append] at hfuel ⊢
    simp only [List.length_cons, List.length_append] at hfuel
    -- one step for the blank and one for the token, which leaves what follows it untouched
    obtain ⟨fuel, rfl⟩ := Nat.exists_eq_add_of_le' (show 2 ≤ fuel by omega)
    have hlater : scanFrom fuel (ts.flatMap fun t => ' ' :: t.spell) = .ok ts :=
      ih hts (by omega)
    have hblank : isBlank ' ' = true := by decide
    simp [scanFrom, hblank, hc, hread, hlater, bind, Except.bind, pure, Except.pure]

theorem scan_spellTokens (hts : ∀ t ∈ ts, t.Lexable) : scan (spellTokens ts) = .ok ts := by
  cases ts with
  | nil => rfl
  | cons t ts =>
    have hblanks : Blanks [' '] := by
      intro c hc
      rw [List.mem_singleton.mp hc]
      decide
    have hspelled : [' '] ++ spellTokens (t :: ts) = (t :: ts).flatMap fun t => ' ' :: t.spell := by
      rw [spellTokens, List.map_cons, intercalate_cons_eq, List.flatMap_map]
      rfl
    rw [← scan_blanks_append hblanks, hspelled]
    exact scanFrom_spelled hts (Nat.le_refl _)

/-! ### Every token of a text can be spelled -/

theorem isFieldName_of_readPath {s : String} (hs : s ∈ (readPath fuel cs).1) : IsFieldName s := by
  induction fuel generalizing cs with
  | zero => cases hs
  | succ fuel ih =>
    have hname (h : (cs.takeWhile isFieldChar).isEmpty ≠ true) :
        IsFieldName (String.ofList (cs.takeWhile isFieldChar)) := by
      rw [IsFieldName, String.toList_ofList]
      refine ⟨by simpa using h, ?_⟩
      exact List.all_eq_true.mp List.all_takeWhile
    simp only [readPath] at hs
    split at hs
    · cases hs
    · next hsegment =>
      split at hs
      · rcases List.mem_cons.mp hs with rfl | hs
        · exact hname hsegment
        · exact ih hs
      · rw [List.mem_singleton.mp hs]
        exact hname hsegment

theorem lexable_of_readInteger {negative : Bool} (h : readInteger negative ds = .ok t) :
    t.Lexable := by
  have hpos : 0 < twoTo 63 := by decide
  simp only [readInteger] at h
  split at h
  · split at h
    · cases h
      refine ⟨?_, ?_⟩ <;> omega
    · cases h
  · split at h
    · cases h
      refine ⟨?_, ?_⟩ <;> omega
    · cases h

theorem lexable_of_readToken (h : readToken c cs = .ok (t, rest)) : t.Lexable := by
  unfold readToken at h
  split at h
  · cases h
    trivial
  split at h
  · cases h
    trivial
  split at h
  · cases h
    trivial
  split at h
  · obtain ⟨rfl, -⟩ := Prod.mk.inj (Except.ok.inj h)
    intro s hs
    exact @isFieldName_of_readPath (cs.length + 1) cs s hs
  split at h
  · obtain ⟨_, -, hsame⟩ := ok_of_map h
    cases hsame
    trivial
  split at h
  · obtain ⟨_, -, hsame⟩ := ok_of_map h
    cases hsame
    trivial
  split at h
  · obtain ⟨t', hread, hsame⟩ := ok_of_map h
    cases hsame
    exact lexable_of_readInteger hread
  split at h
  · obtain ⟨t', hread, hsame⟩ := ok_of_map h
    cases hsame
    exact lexable_of_readInteger hread
  split at h
  · next hstart =>
    cases h
    simp only [Token.Lexable, IsName, String.toList_ofList]
    exact ⟨⟨c, rfl, hstart⟩, List.all_eq_true.mp List.all_takeWhile⟩
  · cases h

theorem lexable_of_scanFrom (h : scanFrom fuel cs = .ok ts) : ∀ t ∈ ts, t.Lexable := by
  induction fuel generalizing cs ts with
  | zero =>
    cases h
    exact fun t ht => nomatch ht
  | succ fuel ih =>
    cases cs with
    | nil =>
      cases h
      exact fun t ht => nomatch ht
    | cons c cs =>
      rw [scanFrom] at h
      split at h
      · exact ih h
      · obtain ⟨⟨t, rest⟩, hread, hothers⟩ := ok_of_bind h
        obtain ⟨later, hscan, hsame⟩ := ok_of_bind hothers
        cases hsame
        exact List.forall_mem_cons.mpr ⟨lexable_of_readToken hread, ih hscan⟩

/-! ### Pipelines and texts have sources -/

theorem read?_spellTokens {p : Pipeline} (hp : Pipeline.WellFormed fs p)
    (hts : ∀ t ∈ Pipeline.flat p, t.Lexable) :
    Pipeline.read? fs (spellTokens (Pipeline.flat p)) = .ok p := by
  simp only [Pipeline.read?, scan_spellTokens hts]
  exact Pipeline.parse_flat hp

theorem lexable_of_read? {p : Pipeline} (h : Pipeline.read? fs cs = .ok p) :
    Pipeline.WellFormed fs p ∧ ∀ t ∈ Pipeline.flat p, t.Lexable := by
  obtain ⟨ts, hscan⟩ := scan_of_read h
  simp only [Pipeline.read?, hscan] at h
  obtain ⟨rfl, hp⟩ := (Pipeline.parse_eq_ok_iff fs ts p).mp h
  exact ⟨hp, lexable_of_scanFrom hscan⟩

theorem renderSource_spellText (fs : Functions) (ctx : Json) (s : String) :
    renderSource fs ctx (braced (String.ofList (spellText s))) = .ok s := by
  have hlexable : ∀ t ∈ Pipeline.flat [.term (.literal (.text s))], t.Lexable := by
    intro t ht
    obtain rfl := List.mem_singleton.mp ht
    trivial
  have hread : Pipeline.read? fs (String.ofList (spellText s)).toList =
      .ok [.term (.literal (.text s))] := by
    have hspell : spellTokens [.text s] = spellText s := List.intercalate_singleton
    rw [String.toList_ofList, ← hspell]
    exact read?_spellTokens (p := [.term (.literal (.text s))]) ⟨trivial, trivial⟩ hlexable
  obtain ⟨-, -, hrender⟩ := evalSource_of_read hread ctx
  rw [hrender]
  rfl

/-- The lexable tokens are the ones that are scanned back from their spelling, so a pipeline that is
well formed and has only such tokens is read back from the source that spells them, alone and in
braces. A pipeline that any source has is one of these. And any text at all is what a template
renders that holds nothing but this text in quotation marks. -/
theorem tokens_survive_their_spelling :
    (∀ ts : List Token, (∀ t ∈ ts, t.Lexable) ↔ scan (spellTokens ts) = .ok ts) ∧
    (∀ (fs : Functions) (p : Pipeline), Pipeline.WellFormed fs p →
      (∀ t ∈ Pipeline.flat p, t.Lexable) →
      let src := String.ofList (spellTokens (Pipeline.flat p))
      readExpression? fs src = .ok p ∧ parse? fs (braced src) = .ok ⟨[.action p]⟩) ∧
    (∀ (fs : Functions) (p : Pipeline) (src : String), readExpression? fs src = .ok p →
      Pipeline.WellFormed fs p ∧ ∀ t ∈ Pipeline.flat p, t.Lexable) ∧
    ∀ (fs : Functions) (ctx : Json) (s : String),
      renderSource fs ctx (braced (String.ofList (spellText s))) = .ok s := by
  refine ⟨fun ts => ⟨scan_spellTokens, lexable_of_scanFrom⟩, ?_, ?_, renderSource_spellText⟩
  · intro fs p hp hts src
    have hread : Pipeline.read? fs src.toList = .ok p := by
      rw [String.toList_ofList]
      exact read?_spellTokens hp hts
    exact ⟨readExpression?_of_read hread, parse?_braced hread⟩
  · exact fun fs p src => lexable_of_read?

/-- The least and the greatest number, the path to the whole context, names in a path with digits
and signs first, and quotation marks, backslashes, braces and a line break in a text. -/
theorem tokens_survive_their_spelling_extremes :
    let ts : List Token := [.name "eq", .field [], .field ["2-a", "-", "_b"],
      .number (-9223372036854775808), .number 9223372036854775807, .openParen, .name "é9",
      .text "\\n\"\x7d\x7d\n", .pipe, .closeParen]
    scan (spellTokens ts) = .ok ts ∧
      renderSource .empty .null (braced (String.ofList (spellText "a\"\x7d\x7d\\"))) =
        .ok "a\"\x7d\x7d\\" := by
  intro ts
  obtain ⟨hscan, -, -, hrender⟩ := tokens_survive_their_spelling
  refine ⟨(hscan ts).mp ?_, hrender _ _ _⟩
  decide +kernel

end TicketSync.Template
