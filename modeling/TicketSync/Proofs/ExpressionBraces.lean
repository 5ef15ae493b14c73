import TicketSync.Proofs.RenderedVars
import TicketSync.Proofs.TextSplitting

/-! # Expressions with and without braces

An expression is cut out of its source by taking off blanks and one pair of braces at the ends, an
action of a template by a search for its closing braces. For a source that has a pipeline both come
to that pipeline: blanks at the ends of a source are in no token, and no token begins with a
brace. -/
namespace TicketSync

/-! ### Blanks -/

namespace Text

/-- The code points in ranges. -/
def Ranges.points (table : Ranges) : List Nat :=
  table.flatMap fun (lo, hi) => List.range' lo (hi + 1 - lo)

theorem Ranges.toNat_mem_points {table : Ranges} {c : Char} (h : table.has c = true) :
    c.toNat ∈ table.points := by
  obtain ⟨⟨lo, hi⟩, hr, hlo, hhi⟩ := (table.has_iff c).mp h
  refine List.mem_flatMap.mpr ⟨(lo, hi), hr, List.mem_range'_1.mpr ⟨hlo, ?_⟩⟩
  dsimp only at hlo hhi ⊢
  omega

/-- What holds for each of the blanks, which are few. -/
theorem forall_blank {p : Char → Bool} (hp : ∀ n ∈ blankRanges.points, p (Char.ofNat n) = false)
    {c : Char} (h : isBlank c = true) : p c = false := by
  rw [← Char.ofNat_toNat c]
  exact hp c.toNat (Ranges.toNat_mem_points h)

end Text

namespace Template

open Text

variable {fs : Functions} {cs bs rest : List Char} {c : Char} {p : Char → Bool}

/-- Characters that are all blank. -/
def Blanks (bs : List Char) : Prop := ∀ c ∈ bs, isBlank c = true

theorem Blanks.all_false (hbs : Blanks bs)
    (hp : ∀ n ∈ blankRanges.points, p (Char.ofNat n) = false) : ∀ c ∈ bs, p c = false :=
  fun c hc => forall_blank hp (hbs c hc)

theorem Blanks.not_mem (hbs : Blanks bs) (hc : isBlank c = false) : c ∉ bs := by
  intro hmem
  rw [hbs c hmem] at hc
  cases hc

theorem takeWhile_append_stop (h : ∀ c ∈ bs, p c = false) (cs : List Char) :
    (cs ++ bs).takeWhile p = cs.takeWhile p := by
  induction cs with
  | nil =>
    cases bs with
    | nil => rfl
    | cons b bs => simp [h b List.mem_cons_self]
  | cons c cs ih =>
    rw [List.cons_append, List.takeWhile_cons, List.takeWhile_cons, ih]

theorem dropWhile_append_stop (h : ∀ c ∈ bs, p c = false) (cs : List Char) :
    (cs ++ bs).dropWhile p = cs.dropWhile p ++ bs := by
  induction cs with
  | nil =>
    cases bs with
    | nil => rfl
    | cons b bs => simp [h b List.mem_cons_self]
  | cons c cs ih =>
    rw [List.cons_append, List.dropWhile_cons, List.dropWhile_cons, ih]
    split <;> rfl

theorem Blanks.not_alphanumeric (hbs : Blanks bs) : ∀ c ∈ bs, isAlphanumeric c = false :=
  hbs.all_false (by decide +kernel)

theorem Blanks.ne (hbs : Blanks bs) {d : Char} (hd : isBlank d = false) : ∀ c ∈ bs, c ≠ d := by
  rintro c hc rfl
  exact hbs.not_mem hd hc

theorem Blanks.not_fieldChar (hbs : Blanks bs) : ∀ c ∈ bs, isFieldChar c = false := by
  intro c hc
  have hunderscore := hbs.ne (show isBlank '_' = false by decide) c hc
  have hminus := hbs.ne (show isBlank '-' = false by decide) c hc
  simp [isFieldChar, hbs.not_alphanumeric c hc, hunderscore, hminus]

theorem Blanks.not_nameChar (hbs : Blanks bs) : ∀ c ∈ bs, isNameChar c = false := by
  intro c hc
  have hunderscore := hbs.ne (show isBlank '_' = false by decide) c hc
  simp [isNameChar, hbs.not_alphanumeric c hc, hunderscore]

theorem Blanks.not_digit (hbs : Blanks bs) : ∀ c ∈ bs, c.isDigit = false :=
  hbs.all_false (by decide +kernel)

/-! ### Blanks at the ends of an action -/

/-- With steps for every character, a path ends before the blanks behind it. -/
theorem readPath_append_blanks (hbs : Blanks bs) {n m : Nat} (hn : cs.length < n)
    (hm : cs.length < m) :
    readPath n (cs ++ bs) = ((readPath m cs).1, (readPath m cs).2 ++ bs) := by
  induction n generalizing m cs with
  | zero => omega
  | succ n ih =>
    obtain ⟨m, rfl⟩ := Nat.exists_eq_succ_of_ne_zero (show m ≠ 0 by omega)
    have hlength : (cs.dropWhile isFieldChar).length ≤ cs.length :=
      (List.dropWhile_suffix isFieldChar).length_le
    simp only [readPath, takeWhile_append_stop hbs.not_fieldChar,
      dropWhile_append_stop hbs.not_fieldChar]
    split
    · rfl
    · generalize cs.dropWhile isFieldChar = after at hlength ⊢
      cases after with
      | nil =>
        cases bs with
        | nil => rfl
        | cons b bs =>
          have hpoint : b ≠ '.' := hbs.ne (by decide) b List.mem_cons_self
          simp [hpoint]
      | cons d after =>
        by_cases hpoint : d = '.'
        · subst hpoint
          rw [List.length_cons] at hlength
          simp only [List.cons_append, @ih after m (by omega) (by omega)]
        · simp [hpoint]

/-- What is read where these characters stand at the end is read without them, and they are left. -/
def StopsBefore {α : Type} (bs : List Char) (x y : Except ScanFault (α × List Char)) : Prop :=
  ∀ a rest, x = .ok (a, rest) → ∃ rest', rest = rest' ++ bs ∧ y = .ok (a, rest')

namespace StopsBefore

variable {α β : Type} {x y x' y' : Except ScanFault (α × List Char)}

theorem ok (a : α) (rest : List Char) : StopsBefore bs (.ok (a, rest ++ bs)) (.ok (a, rest)) := by
  rintro _ _ ⟨⟩
  exact ⟨rest, rfl, rfl⟩

theorem map (h : StopsBefore bs x y) (f : α → β) :
    StopsBefore bs (x.map fun (a, r) => (f a, r)) (y.map fun (a, r) => (f a, r)) := by
  intro b rest hx
  obtain ⟨⟨a, r⟩, hread, hsame⟩ := ok_of_map hx
  cases hsame
  obtain ⟨rest', rfl, hread'⟩ := h a _ hread
  exact ⟨rest', rfl, by rw [hread']; rfl⟩

theorem of_map (z : Except ScanFault α) (rest : List Char) :
    StopsBefore bs (z.map fun a => (a, rest ++ bs)) (z.map fun a => (a, rest)) := by
  cases z with
  | ok a => exact ok a rest
  | error f => exact fun a rest h => nomatch h

theorem ite {p : Prop} [Decidable p] (h : StopsBefore bs x y) (h' : StopsBefore bs x' y') :
    StopsBefore bs (if p then x else x') (if p then y else y') := by
  split
  · exact h
  · exact h'

end StopsBefore

theorem quote_mem_of_readQuoted {r : List Char × List Char} (h : readQuoted cs = .ok r) :
    '"' ∈ cs := by
  fun_induction readQuoted cs generalizing r with
  | case1 => cases h
  | case2 => exact List.mem_cons_self
  | case3 => cases h
  | case4 => cases h
  | case5 c rest x hx ih =>
    obtain ⟨r', hr', -⟩ := ok_of_map h
    exact List.mem_cons_of_mem _ (List.mem_cons_of_mem _ (ih hr'))
  | case6 c rest hclose hlast hescaped ih =>
    obtain ⟨r', hr', -⟩ := ok_of_map h
    exact List.mem_cons_of_mem _ (ih hr')

theorem readQuoted_cons (hclose : c ≠ '"') (hescape : c ≠ '\\') (cs : List Char) :
    readQuoted (c :: cs) = (readQuoted cs).map fun (s, r) => (c :: s, r) :=
  readQuoted.eq_5 c cs hclose (fun h => absurd h hescape) fun _ _ h => absurd h hescape

/-- The mark that closes a quoted text comes before the blanks at the end. -/
theorem readQuoted_stopsBefore (hbs : Blanks bs) (cs : List Char) :
    StopsBefore bs (readQuoted (cs ++ bs)) (readQuoted cs) := by
  have hquote : '"' ∉ bs := hbs.not_mem (by decide)
  fun_induction readQuoted cs with
  | case1 => exact fun s rest h => absurd (quote_mem_of_readQuoted h) hquote
  | case2 ds => exact .ok [] ds
  | case3 =>
    intro s rest h
    have hmem : '"' ∈ '\\' :: bs := quote_mem_of_readQuoted h
    exact absurd (List.mem_of_ne_of_mem (by decide) hmem) hquote
  | case4 c ds hnone =>
    intro s rest h
    simp [readQuoted, hnone] at h
  | case5 c ds x hx ih =>
    rw [List.cons_append, List.cons_append, readQuoted, hx]
    exact ih.map _
  | case6 c ds hclose hlast hescaped ih =>
    have hescape : c ≠ '\\' := by
      rintro rfl
      cases ds with
      | nil => exact hlast rfl rfl
      | cons d ds => exact hescaped d ds rfl rfl
    rw [List.cons_append, readQuoted_cons hclose hescape]
    exact ih.map _

theorem readRaw_close (cs : List Char) : readRaw ('`' :: cs) = .ok ([], cs) := by
  simp [readRaw]

theorem readRaw_cons (hclose : c ≠ '`') (cs : List Char) :
    readRaw (c :: cs) = (readRaw cs).map fun (s, r) => (c :: s, r) := by
  have hdrop : (c :: cs).dropWhile (· ≠ '`') = cs.dropWhile (· ≠ '`') := by simp [hclose]
  have htake : (c :: cs).takeWhile (· ≠ '`') = c :: cs.takeWhile (· ≠ '`') := by simp [hclose]
  simp only [readRaw, hdrop, htake]
  cases cs.dropWhile (· ≠ '`') <;> rfl

/-- The mark that closes a text between backquotes comes before the blanks at the end. -/
theorem readRaw_stopsBefore (hbs : Blanks bs) (cs : List Char) :
    StopsBefore bs (readRaw (cs ++ bs)) (readRaw cs) := by
  induction cs with
  | nil =>
    intro s rest h
    have hraw : ∀ b ∈ bs, decide (b ≠ '`') = true := fun b hb =>
      decide_eq_true (hbs.ne (by decide) b hb)
    have hnone : (bs ++ []).dropWhile (· ≠ '`') = [] := List.dropWhile_append_of_pos hraw
    rw [List.nil_append, readRaw, ← List.append_nil bs, hnone] at h
    cases h
  | cons c cs ih =>
    by_cases hclose : c = '`'
    · subst hclose
      rw [List.cons_append, readRaw_close, readRaw_close]
      exact .ok [] cs
    · rw [List.cons_append, readRaw_cons hclose, readRaw_cons hclose]
      exact ih.map _

/-- A token ends before the blanks at the end of an action. -/
theorem readToken_stopsBefore (hbs : Blanks bs) (c : Char) (cs : List Char) :
    StopsBefore bs (readToken c (cs ++ bs)) (readToken c cs) := by
  have hpath : readPath ((cs ++ bs).length + 1) (cs ++ bs) =
      ((readPath (cs.length + 1) cs).1, (readPath (cs.length + 1) cs).2 ++ bs) := by
    refine readPath_append_blanks hbs ?_ (Nat.lt_succ_self _)
    rw [List.length_append]
    omega
  unfold readToken
  rw [takeWhile_append_stop hbs.not_digit, dropWhile_append_stop hbs.not_digit,
    takeWhile_append_stop hbs.not_nameChar, dropWhile_append_stop hbs.not_nameChar, hpath]
  refine .ite (.ok _ cs) (.ite (.ok _ cs) (.ite (.ok _ cs) (.ite (.ok _ _) (.ite ?quoted
    (.ite ?raw (.ite ?digits (.ite ?negative (.ite (.ok _ _) ?none))))))))
  case quoted => exact (readQuoted_stopsBefore hbs cs).map fun s => Token.text (String.ofList s)
  case raw => exact (readRaw_stopsBefore hbs cs).map fun s => Token.text (String.ofList s)
  case digits => exact .of_map _ _
  case negative => exact .of_map _ _
  case none => exact fun t rest h => nomatch h

theorem scanFrom_blanks (hbs : Blanks bs) (n : Nat) : scanFrom n bs = .ok [] := by
  induction bs generalizing n with
  | nil => cases n <;> rfl
  | cons b bs ih =>
    obtain ⟨hb, hothers⟩ := List.forall_mem_cons.mp hbs
    cases n with
    | zero => rfl
    | succ n => rw [scanFrom, if_pos hb, ih hothers]

/-- What is scanned with blanks at the end is scanned without them, with steps for every
character. -/
theorem scanFrom_of_append_blanks (hbs : Blanks bs) {n m : Nat} {ts : List Token}
    (hn : (cs ++ bs).length ≤ n) (hm : cs.length ≤ m) (h : scanFrom n (cs ++ bs) = .ok ts) :
    scanFrom m cs = .ok ts := by
  induction n generalizing m cs ts with
  | zero =>
    rw [List.length_append] at hn
    rw [List.length_eq_zero_iff.mp (show cs.length = 0 by omega)]
    cases h
    cases m <;> rfl
  | succ n ih =>
    cases cs with
    | nil =>
      rw [List.nil_append, scanFrom_blanks hbs] at h
      cases h
      cases m <;> rfl
    | cons c cs =>
      obtain ⟨m, rfl⟩ := Nat.exists_eq_succ_of_ne_zero (Nat.ne_zero_of_lt hm)
      rw [List.cons_append, List.length_cons] at hn
      rw [List.length_cons] at hm
      rw [List.cons_append, scanFrom] at h
      rw [scanFrom]
      split at h
      · next hblank => exact if_pos hblank ▸ ih (by omega) (by omega) h
      · next hblank =>
        rw [if_neg hblank]
        obtain ⟨⟨t, rest⟩, hread, hothers⟩ := ok_of_bind h
        obtain ⟨ts', hscan, hsame⟩ := ok_of_bind hothers
        obtain ⟨rest', rfl, hread'⟩ := readToken_stopsBefore hbs c cs t rest hread
        obtain ⟨-, -, taken, htaken, -⟩ := readToken_takes hread'
        have hlength := congrArg List.length htaken
        rw [List.length_append] at hlength hn
        have hrest : scanFrom m rest' = .ok ts' :=
          ih (by rw [List.length_append]; omega) (by omega) hscan
        rw [hread']
        simpa [bind, Except.bind, hrest] using hsame

theorem scan_blanks_append (hbs : Blanks bs) (cs : List Char) : scan (bs ++ cs) = scan cs := by
  induction bs with
  | nil => rfl
  | cons b bs ih =>
    obtain ⟨hb, hothers⟩ := List.forall_mem_cons.mp hbs
    rw [← ih hothers, List.cons_append, scan, List.length_cons, scanFrom, if_pos hb, scan]

/-- A source is its inner part between blanks. -/
theorem exists_blanks_trimChars (cs : List Char) :
    ∃ before after, Blanks before ∧ Blanks after ∧ cs = before ++ (trimChars cs ++ after) := by
  have hall : ∀ ds : List Char, Blanks (ds.takeWhile isBlank) := fun ds c hc =>
    List.all_eq_true.mp List.all_takeWhile c hc
  refine ⟨cs.takeWhile isBlank, ((cs.dropWhile isBlank).reverse.takeWhile isBlank).reverse, hall cs,
    fun c hc => hall _ c (List.mem_reverse.mp hc), ?_⟩
  rw [trimChars, ← List.reverse_append, List.takeWhile_append_dropWhile, List.reverse_reverse,
    List.takeWhile_append_dropWhile]

theorem scan_trimChars {ts : List Token} (h : scan cs = .ok ts) : scan (trimChars cs) = .ok ts := by
  obtain ⟨before, after, hbefore, hafter, hcs⟩ := exists_blanks_trimChars cs
  rw [hcs, scan_blanks_append hbefore] at h
  exact scanFrom_of_append_blanks hafter (Nat.le_refl _) (Nat.le_refl _) h

/-! ### Braces at the ends of a source -/

theorem scan_brace (cs : List Char) : scan ('\x7b' :: cs) = .error (.unexpected '\x7b') := by
  have hread : readToken '\x7b' cs = .error (.unexpected '\x7b') := by
    have hname : isNameStart '\x7b' = false := by decide
    simp [readToken, hname]
  have hblank : isBlank '\x7b' = false := by decide
  simp [scan, scanFrom, hblank, hread, bind, Except.bind]

/-- A source with tokens has no braces to be taken off. -/
theorem stripBraces_of_scan {ts : List Token} (h : scan cs = .ok ts) : stripBraces cs = cs := by
  unfold stripBraces
  split
  · rw [scan_brace] at h
    cases h
  · rfl

theorem stripBraces_trimChars_braced (cs : List Char) :
    stripBraces (trimChars ('\x7b' :: '\x7b' :: (cs ++ ['\x7d', '\x7d']))) = cs := by
  have hopen : isBlank '\x7b' = false := by decide
  have hclose : isBlank '\x7d' = false := by decide
  simp [trimChars, stripBraces, hopen, hclose]

/-- A source in braces. -/
def braced (src : String) : String := "\x7b\x7b" ++ src ++ "\x7d\x7d"

theorem toList_braced (src : String) :
    (braced src).toList = '\x7b' :: '\x7b' :: (src.toList ++ ['\x7d', '\x7d']) := by
  simp [braced]

section
variable {src : String} {q : Pipeline}

theorem readExpression?_of_read (h : Pipeline.read? fs src.toList = .ok q) :
    readExpression? fs src = .ok q := by
  obtain ⟨ts, hscan⟩ := scan_of_read h
  have htrim := scan_trimChars hscan
  rw [readExpression?, stripBraces_of_scan htrim, Pipeline.read?, htrim]
  rwa [Pipeline.read?, hscan] at h

theorem readExpression?_braced (fs : Functions) (src : String) :
    readExpression? fs (braced src) = Pipeline.read? fs src.toList := by
  rw [readExpression?, toList_braced, stripBraces_trimChars_braced]

theorem parse?_braced (h : Pipeline.read? fs src.toList = .ok q) :
    parse? fs (braced src) = .ok ⟨[.action q]⟩ := by
  have hslots : ∀ s ∈ [Slot.mk [] src.toList q], s.Fits fs := by
    intro s hs
    obtain rfl := List.mem_singleton.mp hs
    exact ⟨.nil, by simp, h⟩
  have hsource : (braced src).toList = [Slot.mk [] src.toList q].flatMap Slot.spell ++ [] := by
    simp [toList_braced, Slot.spell]
  have hlength : (braced src).toList.length ≤ (braced src).length :=
    Nat.le_of_eq String.length_toList
  have hparts := readParts_spell hslots .nil (hsource ▸ hlength)
  rw [← hsource] at hparts
  rw [parse?, hparts]
  rfl

theorem renderIn_action (fs : Functions) (ctx : Json) (q : Pipeline) :
    renderIn ⟨[.action q]⟩ fs ctx = (q.eval fs ctx).map render := by
  cases h : q.eval fs ctx <;> simp [renderIn, renderParts, h, Except.map, bind, Except.bind, pure,
    Except.pure]

/-- The value of a source that has a pipeline, alone and in braces, and its text in a template. -/
theorem evalSource_of_read (h : Pipeline.read? fs src.toList = .ok q) (ctx : Json) :
    evalSource fs ctx src = (q.eval fs ctx).mapError .eval ∧
    evalSource fs ctx (braced src) = (q.eval fs ctx).mapError .eval ∧
    renderSource fs ctx (braced src) = ((q.eval fs ctx).mapError .eval).map render := by
  refine ⟨?_, ?_, ?_⟩
  · rw [evalSource, readExpression?_of_read h]
  · rw [evalSource, readExpression?_braced, h]
  · rw [renderSource, parse?_braced h]
    simp only [renderIn_action]
    cases q.eval fs ctx <;> rfl

end

end Template

open Template

/-- A failure with a condition that is not a truth value quoted as this text. -/
def Failure.quoting (condition : String) : Failure → Failure
  | .notBoolean _ got => .notBoolean condition got
  | f => f

section
variable {fs : Functions} {src src' : String} {u : Update} {t : Ticket} {b : Bool}

/-- Sources with one value are one condition, but for how a failure quotes it. -/
theorem evalCondition_congr
    (h : evalSource fs (context u t) src' = evalSource fs (context u t) src) :
    evalCondition fs src' u t = (evalCondition fs src u t).mapError (·.quoting src') := by
  unfold evalCondition
  rw [h]
  cases evalSource fs (context u t) src with
  | error fault => rfl
  | ok v => cases v <;> rfl

theorem evalSource_of_evalCondition (h : evalCondition fs src u t = .ok b) :
    evalSource fs (context u t) src = .ok (.bool b) := by
  unfold evalCondition at h
  split at h
  · next heval =>
    cases h
    exact heval
  · cases h
  · cases h

theorem render_bool (b : Bool) : render (.bool b) = toString b := by
  cases b <;> rfl

/-- A source that has a pipeline is one expression with and without braces, and in braces a template
of a single action, with the text of the expression's value or its fault. So as a condition it is
answered alike with and without them, and a variable with the source in braces gets the text of
what the condition answers. -/
theorem reads_alike_in_braces (fs : Functions) (src : String) (q : Pipeline)
    (h : Pipeline.read? fs src.toList = .ok q) :
    readExpression? fs src = .ok q ∧
    readExpression? fs (braced src) = .ok q ∧
    parse? fs (braced src) = .ok ⟨[.action q]⟩ ∧
    (∀ ctx, evalSource fs ctx src = (q.eval fs ctx).mapError .eval ∧
      renderSource fs ctx (braced src) = (evalSource fs ctx src).map render) ∧
    ∀ (u : Update) (t : Ticket),
      evalCondition fs (braced src) u t =
        (evalCondition fs src u t).mapError (·.quoting (braced src)) ∧
      ∀ b, evalCondition fs src u t = .ok b →
        (∀ name, (Vars.ofList [(name, braced src)]).evaluate fs u t =
          .ok ⟨.ofList [(name, toString b)], true⟩) ∧
        ∀ (vars w : Vars) (name : String), vars.evaluated = false →
          vars.get? name = some (braced src) → vars.evaluate fs u t = .ok w →
          w.get? name = some (toString b) := by
  refine ⟨readExpression?_of_read h, readExpression?_braced fs src ▸ h, parse?_braced h, ?_, ?_⟩
  · intro ctx
    obtain ⟨hplain, -, hrender⟩ := evalSource_of_read h ctx
    exact ⟨hplain, hplain ▸ hrender⟩
  · intro u t
    obtain ⟨hplain, hbraced, hrender⟩ := evalSource_of_read h (context u t)
    refine ⟨evalCondition_congr (hbraced.trans hplain.symm), ?_⟩
    intro b hb
    have htext : renderSource fs (context u t) (braced src) = .ok (toString b) := by
      rw [hrender, ← hplain, evalSource_of_evalCondition hb, ← render_bool]
      rfl
    refine ⟨?_, ?_⟩
    · intro name
      simp [Vars.evaluate, Vars.ofList, Vars.toList, Dict.toList, Dict.ofList, Dict.insert,
        Dict.put, Dict.empty, Vars.renderOne, htext, bind, Except.bind, pure, Except.pure]
    · intro vars w name hmark hget hw
      rw [Vars.evaluate_of_not_evaluated hmark] at hw
      obtain ⟨l, hl, rfl⟩ := ok_of_map hw
      obtain ⟨text, hvalue, hrenders⟩ := (Vars.renderedTo_of_renderAll hl).texts name _ hget
      rw [← renderSource_eq_ok_iff, htext] at hrenders
      cases hrenders
      exact hvalue

/-- A source with blanks at its ends and closing braces in a text. -/
theorem reads_alike_in_braces_quoted :
    let src := " eq .Update.Title \"\x7d\x7d\" "
    let q : Pipeline := [.call "eq" [.field ["Update", "Title"], .literal (.text "\x7d\x7d")]]
    Pipeline.read? (.standard .empty) src.toList = .ok q ∧
      parse? (.standard .empty) (braced src) = .ok ⟨[.action q]⟩ ∧
      evalCondition (.standard .empty) src default default = .ok false ∧
      (Vars.ofList [("v", braced src)]).evaluate (.standard .empty) default default =
        .ok ⟨.ofList [("v", toString false)], true⟩ := by
  have hscan : scan " eq .Update.Title \"\x7d\x7d\" ".toList =
      .ok (Pipeline.flat
        [.call "eq" [.field ["Update", "Title"], .literal (.text "\x7d\x7d")]]) := rfl
  have hwell : Pipeline.WellFormed (.standard .empty)
      [.call "eq" [.field ["Update", "Title"], .literal (.text "\x7d\x7d")]] :=
    ⟨⟨⟨by decide +kernel, by decide⟩, trivial, trivial, trivial⟩, trivial⟩
  have hread : Pipeline.read? (.standard .empty) " eq .Update.Title \"\x7d\x7d\" ".toList =
      .ok [.call "eq" [.field ["Update", "Title"], .literal (.text "\x7d\x7d")]] := by
    rw [Pipeline.read?, hscan]
    exact Pipeline.parse_flat hwell
  have hvalue : evalCondition (.standard .empty) " eq .Update.Title \"\x7d\x7d\" " default default =
      .ok false := by decide +kernel
  obtain ⟨-, -, hparse, -, hcondition⟩ := reads_alike_in_braces _ _ _ hread
  exact ⟨hread, hparse, hvalue, ((hcondition default default).2 false hvalue).1 "v"⟩
end

end TicketSync
