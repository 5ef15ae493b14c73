import TicketSync.Proofs.TokenSpelling

/-! # What a scanned source consists of

A source that has tokens is made of blanks and of spellings of its tokens, in order, and of nothing
else but points: behind a path of at least one name one more point is taken that the token does not
tell, when no name follows it. How many points were lost so can be counted in the source and in its
tokens, and where none was lost the source is made of blanks and spellings alone. -/
namespace TicketSync.Template

open Text

/-! ### Spellings -/

/-- A character in double quotation marks: as it is, or by one of the four escapes. -/
inductive CharSpelling : Char → List Char → Prop
  | plain (c : Char) (quote : c ≠ '"') (escape : c ≠ '\\') : CharSpelling c [c]
  | newline : CharSpelling '\n' ['\\', 'n']
  | tab : CharSpelling '\t' ['\\', 't']
  | quote : CharSpelling '"' ['\\', '"']
  | backslash : CharSpelling '\\' ['\\', '\\']

/-- Characters in double quotation marks. -/
inductive QuotedSpelling : List Char → List Char → Prop
  | nil : QuotedSpelling [] []
  | cons {c : Char} {cs s ss : List Char} (first : CharSpelling c s) (rest : QuotedSpelling cs ss) :
      QuotedSpelling (c :: cs) (s ++ ss)

/-- The ways to write a token: a path with a point before each name, a number by digits, where
noughts may come first, and a text in double quotation marks or between backquotes. -/
inductive Token.Spelling : Token → List Char → Prop
  | field (path : List String) : Spelling (.field path) ('.' :: (".".intercalate path).toList)
  | quoted {s : String} {ss : List Char} (chars : QuotedSpelling s.toList ss) :
      Spelling (.text s) ('"' :: (ss ++ ['"']))
  | raw (s : String) (close : '`' ∉ s.toList) : Spelling (.text s) ('`' :: (s.toList ++ ['`']))
  | digits (ds : List Char) (some : ds ≠ []) (all : ∀ d ∈ ds, d.isDigit = true) :
      Spelling (.number (digitsValue ds)) ds
  | negative (ds : List Char) (some : ds ≠ []) (all : ∀ d ∈ ds, d.isDigit = true) :
      Spelling (.number (-digitsValue ds)) ('-' :: ds)
  | name (s : String) : Spelling (.name s) s.toList
  | openParen : Spelling .openParen ['(']
  | closeParen : Spelling .closeParen [')']
  | pipe : Spelling .pipe ['|']

/-- A token at the beginning of a text, with the points that are taken with it and not told by it,
and the rest. -/
inductive Token.Taken : Token → (lost : Nat) → List Char → List Char → Prop
  | spelled {t : Token} {s : List Char} (rest : List Char) (spelling : t.Spelling s) :
      Taken t 0 (s ++ rest) rest
  | pointed {path : List String} {s : List Char} (rest : List Char) (names : path ≠ [])
      (spelling : Token.Spelling (.field path) s)
      (stops : ∀ c ∈ rest.head?, isFieldChar c = false) :
      Taken (.field path) 1 (s ++ '.' :: rest) rest

/-- A source of blanks and tokens, with the number of points that no token tells. -/
inductive MadeOf : (lost : Nat) → List Token → List Char → Prop
  | nil : MadeOf 0 [] []
  | blank {c : Char} {cs : List Char} {n : Nat} {ts : List Token} (isBlank : isBlank c = true)
      (rest : MadeOf n ts cs) : MadeOf n ts (c :: cs)
  | token {t : Token} {cs ds : List Char} {k n : Nat} {ts : List Token} (first : t.Taken k cs ds)
      (rest : MadeOf n ts ds) : MadeOf (k + n) (t :: ts) cs

variable {fuel n k : Nat} {cs ds ss rest : List Char} {c : Char} {t : Token} {ts : List Token}
  {path : List String}

/-! ### Each token is taken with its own characters -/

theorem toList_intercalate_cons (name : String) (path : List String) :
    (".".intercalate (name :: path)).toList =
      name.toList ++ path.flatMap fun s => '.' :: s.toList := by
  rw [String.toList_intercalate, List.map_cons]
  exact (intercalate_cons_eq '.' _ _).trans (by rw [List.flatMap_map])

theorem not_head?_dropWhile {p : Char → Bool} (cs : List Char) :
    ∀ c ∈ (cs.dropWhile p).head?, p c = false := by
  intro c hc
  have hstop := List.head?_dropWhile_not p cs
  rw [Option.mem_def.mp hc] at hstop
  simpa using hstop

/-- A path is taken up to its last name, and one point more when no name follows that. -/
theorem readPath_splits (hfuel : cs.length < fuel)
    (h : readPath fuel cs = (path, rest)) :
    (cs = (".".intercalate path).toList ++ rest ∨
      path ≠ [] ∧ cs = (".".intercalate path).toList ++ '.' :: rest) ∧
    ∀ c ∈ rest.head?, isFieldChar c = false := by
  induction fuel generalizing cs path rest with
  | zero => exact absurd hfuel (Nat.not_lt_zero _)
  | succ fuel ih =>
    have hspan : cs.takeWhile isFieldChar ++ cs.dropWhile isFieldChar = cs :=
      List.takeWhile_append_dropWhile
    simp only [readPath] at h
    split at h
    · next hempty =>
      cases h
      rw [List.isEmpty_iff.mp hempty] at hspan
      exact ⟨.inl hspan.symm, not_head?_dropWhile cs⟩
    · split at h
      · next ds hpoint =>
        obtain ⟨rfl, rfl⟩ := Prod.mk.inj h
        have hds : ds.length < fuel := by
          have hlength := congrArg List.length hspan
          rw [hpoint, List.length_append, List.length_cons] at hlength
          omega
        obtain ⟨hsplits, hstops⟩ := ih hds rfl
        refine ⟨?_, hstops⟩
        obtain ⟨segment, hsegment⟩ : ∃ s, cs.takeWhile isFieldChar = s := ⟨_, rfl⟩
        rw [hpoint, hsegment] at hspan
        rw [hsegment, toList_intercalate_cons, String.toList_ofList, ← hspan]
        -- with no name behind the point it belongs to no spelling
        cases hlater : (readPath fuel ds).1 with
        | nil =>
          rw [hlater] at hsplits
          rcases hsplits with hds | ⟨hne, -⟩
          · refine .inr ⟨List.cons_ne_nil _ _, ?_⟩
            rw [← show ds = (readPath fuel ds).2 from hds]
            simp
          · exact absurd rfl hne
        | cons name path =>
          rw [hlater, toList_intercalate_cons] at hsplits
          obtain ⟨later, hend⟩ : ∃ later, (readPath fuel ds).2 = later := ⟨_, rfl⟩
          rw [hend] at hsplits ⊢
          rcases hsplits with hds | ⟨-, hds⟩
          · exact .inl (by simp [hds])
          · exact .inr ⟨List.cons_ne_nil _ _, by simp [hds]⟩
      · obtain ⟨rfl, rfl⟩ := Prod.mk.inj h
        refine ⟨.inl ?_, not_head?_dropWhile cs⟩
        rw [toList_intercalate_cons, String.toList_ofList, List.flatMap_nil, List.append_nil]
        exact hspan.symm

theorem taken_of_readPath (h : readPath (cs.length + 1) cs = (path, rest)) :
    ∃ n, Token.Taken (.field path) n ('.' :: cs) rest := by
  obtain ⟨hsplits | ⟨hne, hsplits⟩, hstops⟩ := readPath_splits (Nat.lt_succ_self _) h
  · rw [hsplits, ← List.cons_append]
    exact ⟨0, .spelled rest (.field path)⟩
  · rw [hsplits, ← List.cons_append]
    exact ⟨1, .pointed rest hne (.field path) hstops⟩

theorem charSpelling_of_unescape? {x : Char} (h : unescape? c = some x) :
    CharSpelling x ['\\', c] := by
  unfold unescape? at h
  split at h
  · cases h
    exact .newline
  · cases h
    exact .tab
  · cases h
    exact .quote
  · cases h
    exact .backslash
  · cases h

theorem quotedSpelling_of_readQuoted (h : readQuoted cs = .ok (ds, rest)) :
    ∃ ss, QuotedSpelling ds ss ∧ cs = ss ++ '"' :: rest := by
  fun_induction readQuoted cs generalizing ds with
  | case1 => cases h
  | case2 =>
    cases h
    exact ⟨[], .nil, rfl⟩
  | case3 => cases h
  | case4 => cases h
  | case5 c cs x hc ih =>
    obtain ⟨read, hread, hsame⟩ := ok_of_map h
    cases hsame
    obtain ⟨ss, hss, rfl⟩ := ih hread
    exact ⟨['\\', c] ++ ss, .cons (charSpelling_of_unescape? hc) hss, rfl⟩
  | case6 c cs hclose hlast hescaped ih =>
    have hescape : c ≠ '\\' := by
      rintro rfl
      cases cs with
      | nil => exact hlast rfl rfl
      | cons d cs => exact hescaped d cs rfl rfl
    obtain ⟨read, hread, hsame⟩ := ok_of_map h
    cases hsame
    obtain ⟨ss, hss, rfl⟩ := ih hread
    exact ⟨[c] ++ ss, .cons (.plain c hclose hescape) hss, rfl⟩

theorem split_of_readRaw (h : readRaw cs = .ok (ds, rest)) :
    '`' ∉ ds ∧ cs = ds ++ '`' :: rest := by
  unfold readRaw at h
  split at h
  · cases h
  · next c later hlater =>
    cases h
    have hclose : c = '`' := by
      have hstop := not_head?_dropWhile (p := fun d => decide (d ≠ '`')) cs c (by rw [hlater]; rfl)
      simpa using hstop
    refine ⟨?_, ?_⟩
    · intro hmem
      simpa using List.all_eq_true.mp List.all_takeWhile '`' hmem
    · rw [hclose] at hlater
      rw [← hlater, List.takeWhile_append_dropWhile]

theorem value_of_readInteger {negative : Bool} (h : readInteger negative ds = .ok t) :
    t = .number (if negative then -digitsValue ds else digitsValue ds) := by
  unfold readInteger at h
  cases negative with
  | true =>
    simp only [if_true] at h ⊢
    split at h
    · exact (Except.ok.inj h).symm
    · cases h
  | false =>
    simp only [Bool.false_eq_true, if_false] at h ⊢
    split at h
    · exact (Except.ok.inj h).symm
    · cases h

theorem taken_of_readToken (h : readToken c cs = .ok (t, rest)) : ∃ n, t.Taken n (c :: cs) rest := by
  have hspelled {s : List Char} (hs : t.Spelling s) (heq : c :: cs = s ++ rest) :
      ∃ n, t.Taken n (c :: cs) rest := heq ▸ ⟨0, .spelled rest hs⟩
  have hdigits : cs = cs.takeWhile Char.isDigit ++ cs.dropWhile Char.isDigit :=
    List.takeWhile_append_dropWhile.symm
  have hall : ∀ d ∈ cs.takeWhile Char.isDigit, d.isDigit = true :=
    List.all_eq_true.mp List.all_takeWhile
  unfold readToken at h
  split at h
  · next hc =>
    cases h
    exact hspelled .openParen (by rw [hc]; rfl)
  split at h
  · next hc =>
    cases h
    exact hspelled .closeParen (by rw [hc]; rfl)
  split at h
  · next hc =>
    cases h
    exact hspelled .pipe (by rw [hc]; rfl)
  split at h
  · next hc =>
    obtain ⟨rfl, rfl⟩ := Prod.mk.inj (Except.ok.inj h)
    rw [hc]
    exact taken_of_readPath rfl
  split at h
  · next hc =>
    obtain ⟨⟨s, ds⟩, hread, hsame⟩ := ok_of_map h
    cases hsame
    obtain ⟨ss, hss, rfl⟩ := quotedSpelling_of_readQuoted hread
    exact hspelled (.quoted (by rwa [String.toList_ofList])) (by simp [hc])
  split at h
  · next hc =>
    obtain ⟨⟨s, ds⟩, hread, hsame⟩ := ok_of_map h
    cases hsame
    obtain ⟨hclose, rfl⟩ := split_of_readRaw hread
    exact hspelled (.raw _ (by rwa [String.toList_ofList])) (by simp [hc])
  split at h
  · next hc =>
    obtain ⟨t', hread, hsame⟩ := ok_of_map h
    cases hsame
    have hvalue := value_of_readInteger hread
    subst hvalue
    exact hspelled (.digits _ (List.cons_ne_nil _ _) (List.forall_mem_cons.mpr ⟨hc, hall⟩))
      (by rw [List.cons_append, ← hdigits])
  split at h
  · next hc =>
    simp only [Bool.and_eq_true, decide_eq_true_eq] at hc
    obtain ⟨t', hread, hsame⟩ := ok_of_map h
    cases hsame
    have hvalue := value_of_readInteger hread
    subst hvalue
    exact hspelled (.negative _ hc.2 hall) (by rw [hc.1, List.cons_append, ← hdigits])
  split at h
  · cases h
    refine hspelled (.name _) ?_
    rw [String.toList_ofList, List.cons_append, List.takeWhile_append_dropWhile]
  · cases h

/-! ### A source is made of its tokens -/

theorem madeOf_of_scanFrom (hfuel : cs.length ≤ fuel) (h : scanFrom fuel cs = .ok ts) :
    ∃ n, MadeOf n ts cs := by
  induction fuel generalizing cs ts with
  | zero =>
    rw [List.length_eq_zero_iff.mp (Nat.le_zero.mp hfuel)]
    cases h
    exact ⟨0, .nil⟩
  | succ fuel ih =>
    cases cs with
    | nil =>
      cases h
      exact ⟨0, .nil⟩
    | cons c cs =>
      have hlength : cs.length ≤ fuel := Nat.le_of_succ_le_succ hfuel
      rw [scanFrom] at h
      split at h
      · next hblank =>
        obtain ⟨n, hrest⟩ := ih hlength h
        exact ⟨n, .blank hblank hrest⟩
      · obtain ⟨⟨t, rest⟩, hread, hothers⟩ := ok_of_bind h
        obtain ⟨later, hscan, hsame⟩ := ok_of_bind hothers
        cases hsame
        obtain ⟨k, htaken⟩ := taken_of_readToken hread
        obtain ⟨-, -, taken, rfl, -⟩ := readToken_takes hread
        obtain ⟨n, hrest⟩ := ih (by simp only [List.length_append] at hlength; omega) hscan
        exact ⟨k + n, .token htaken hrest⟩

/-! ### Points are told by tokens or lost -/

/-- How many points the spellings of a token have. -/
def Token.points : Token → Nat
  | .field path => max 1 path.length
  | .text s => s.toList.count '.'
  | _ => 0

/-- How many points the spellings of tokens have. -/
def pointsTold (ts : List Token) : Nat := ts.foldr (fun t n => t.points + n) 0

theorem count_point_of {p : Char → Bool} (hp : p '.' = false) (h : ∀ c ∈ cs, p c = true) :
    cs.count '.' = 0 := by
  refine List.count_eq_zero.mpr ?_
  intro hmem
  cases (h '.' hmem).symm.trans hp

theorem IsFieldName.count_point {s : String} (h : IsFieldName s) : s.toList.count '.' = 0 :=
  count_point_of (by decide) h.2

theorem count_point_names (h : ∀ s ∈ path, IsFieldName s) :
    (path.flatMap fun s => '.' :: s.toList).count '.' = path.length := by
  induction path with
  | nil => rfl
  | cons name path ih =>
    obtain ⟨hname, hpath⟩ := List.forall_mem_cons.mp h
    rw [List.flatMap_cons, List.count_append, List.count_cons_self, hname.count_point, ih hpath,
      List.length_cons]
    omega

theorem CharSpelling.count_point {s : List Char} (h : CharSpelling c s) :
    s.count '.' = [c].count '.' := by
  cases h <;> rfl

theorem QuotedSpelling.count_point (h : QuotedSpelling cs ss) : ss.count '.' = cs.count '.' := by
  induction h with
  | nil => rfl
  | @cons c cs s ss first rest ih =>
    rw [List.count_append, first.count_point, ih, ← List.count_append, List.singleton_append]

theorem Token.Spelling.count_point {s : List Char} (h : t.Spelling s) (ht : t.Lexable) :
    s.count '.' = t.points := by
  cases h with
  | field path =>
    cases path with
    | nil => rfl
    | cons name path =>
      obtain ⟨hname, hpath⟩ := List.forall_mem_cons.mp ht
      rw [toList_intercalate_cons, List.count_cons_self, List.count_append, hname.count_point,
        count_point_names hpath, Token.points, List.length_cons]
      omega
  | quoted chars =>
    rw [List.count_cons_of_ne (by decide), List.count_append, chars.count_point]
    rfl
  | raw s close =>
    rw [List.count_cons_of_ne (by decide), List.count_append]
    rfl
  | digits ds some all => exact count_point_of (by decide) all
  | negative ds some all =>
    rw [List.count_cons_of_ne (by decide)]
    exact count_point_of (by decide) all
  | name s =>
    obtain ⟨⟨c, hhead, hc⟩, hcs⟩ := ht
    obtain ⟨cs, hs⟩ := List.head?_eq_some_iff.mp hhead
    rw [hs, List.tail_cons] at hcs
    rw [hs]
    exact count_point_of (p := isNameChar) (by decide)
      (List.forall_mem_cons.mpr ⟨isNameChar_of_isNameStart hc, hcs⟩)
  | openParen => rfl
  | closeParen => rfl
  | pipe => rfl

theorem Token.Taken.count_point (h : t.Taken n cs rest) (ht : t.Lexable) :
    cs.count '.' = n + t.points + rest.count '.' := by
  cases h with
  | spelled rest spelling => rw [List.count_append, spelling.count_point ht, Nat.zero_add]
  | pointed rest names spelling stops =>
    rw [List.count_append, spelling.count_point ht, List.count_cons_self]
    omega

theorem MadeOf.count_point (h : MadeOf n ts cs) (hts : ∀ t ∈ ts, t.Lexable) :
    cs.count '.' = n + pointsTold ts := by
  induction h with
  | nil => rfl
  | @blank c cs n ts hblank rest ih =>
    have hc : c ≠ '.' := by
      rintro rfl
      exact absurd hblank (by decide)
    rw [List.count_cons_of_ne hc, ih hts]
  | @token t cs ds k n ts first rest ih =>
    obtain ⟨ht, hts⟩ := List.forall_mem_cons.mp hts
    have htold : pointsTold (t :: ts) = t.points + pointsTold ts := rfl
    rw [first.count_point ht, ih hts, htold]
    omega

/-- A source that is scanned as tokens consists of blanks and of the spellings of these tokens in
order, but for points that no token tells. One such point may stand behind each path of at least one
name, where no name follows it. Their number is how many points more the source has than its tokens,
and the source is made of blanks and spellings alone exactly when there is none. -/
theorem scanned_source_loses_only_points (cs : List Char) (ts : List Token)
    (h : scan cs = .ok ts) :
    ∃ lost, MadeOf lost ts cs ∧ cs.count '.' = lost + pointsTold ts ∧
      (MadeOf 0 ts cs ↔ lost = 0) := by
  obtain ⟨lost, hmade⟩ := madeOf_of_scanFrom (Nat.le_refl _) h
  have hlexable := lexable_of_scanFrom h
  have hpoints := hmade.count_point hlexable
  refine ⟨lost, hmade, hpoints, ?_, ?_⟩
  · intro hwhole
    have hnone := hwhole.count_point hlexable
    omega
  · rintro rfl
    exact hmade

/-- A path with points where names are missing: the tokens tell two of its four points. -/
theorem pointed_path_loses_points :
    scan ".a..b.".toList = .ok [.field ["a"], .field ["b"]] ∧
      MadeOf 2 [.field ["a"], .field ["b"]] ".a..b.".toList := by
  have hscan : scan ".a..b.".toList = .ok [.field ["a"], .field ["b"]] := rfl
  obtain ⟨lost, hmade, hpoints, -⟩ := scanned_source_loses_only_points _ _ hscan
  have hfour : ".a..b.".toList.count '.' = 4 := by decide +kernel
  have htold : pointsTold [.field ["a"], .field ["b"]] = 2 := rfl
  obtain rfl : lost = 2 := by omega
  exact ⟨hscan, hmade⟩

/-- A point at the end of a path is taken and told by no token. -/
theorem point_behind_path_is_lost :
    scan ".a.".toList = .ok [.field ["a"]] ∧ ¬MadeOf 0 [.field ["a"]] ".a.".toList := by
  refine ⟨rfl, ?_⟩
  intro hmade
  have hpoints := hmade.count_point (by decide +kernel)
  exact absurd hpoints (by decide +kernel)

end TicketSync.Template
