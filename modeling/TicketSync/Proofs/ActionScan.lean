import TicketSync.Proofs.PipelineGrammar
import TicketSync.Template.Basic

/-! # Where an action ends

The search for the closing braces of an action follows quotation marks by itself, the scanner reads
them as tokens. They agree: a token takes the search from outside all marks to outside all marks, so
the search does not stop inside of an action that has tokens. -/
namespace TicketSync.Template

theorem splitAction_open {m c : Char} (h : ¬(c = '\\' ∧ m = '"')) (tail : List Char) :
    splitAction (some m) (c :: tail) =
      (splitAction (if c = m then none else some m) tail).map fun (a, r) => (c :: a, r) := by
  rw [splitAction.eq_def]
  simp only [h, if_false]

/-- Through these characters the search for the end of an action comes from one open quotation mark
to another, whatever follows. -/
def Skips (m : Option Char) (cs : List Char) (m' : Option Char) : Prop :=
  ∀ tail, splitAction m (cs ++ tail) = (splitAction m' tail).map fun (a, r) => (cs ++ a, r)

/-- Characters that mean nothing to the search outside of quotation marks. -/
def Plain (c : Char) : Prop := c ≠ '"' ∧ c ≠ '`' ∧ c ≠ '\x7d'

instance (c : Char) : Decidable (Plain c) :=
  inferInstanceAs (Decidable (_ ∧ _ ∧ _))

variable {m m' m'' : Option Char} {cs ds rest : List Char} {c : Char}

namespace Skips

theorem nil (m : Option Char) : Skips m [] m := by
  intro tail
  simp

theorem append (h : Skips m cs m') (h' : Skips m' ds m'') : Skips m (cs ++ ds) m'' := by
  intro tail
  rw [List.append_assoc, h, h', Option.map_map]
  congr 1
  funext x
  simp

theorem plain (h : Plain c) : Skips none [c] none := by
  intro tail
  obtain ⟨hquote, hraw, hbrace⟩ := h
  simp [splitAction, hquote, hraw, hbrace]

theorem open_quote : Skips none ['"'] (some '"') := by
  intro tail
  simp [splitAction]

theorem open_raw : Skips none ['`'] (some '`') := by
  intro tail
  simp [splitAction]

theorem close_quote : Skips (some '"') ['"'] none := by
  intro tail
  simp [splitAction_open]

theorem close_raw : Skips (some '`') ['`'] none := by
  intro tail
  simp [splitAction_open]

theorem in_quote (hescape : c ≠ '\\') (hclose : c ≠ '"') : Skips (some '"') [c] (some '"') := by
  intro tail
  simp [splitAction_open, hescape, hclose]

theorem escaped (c : Char) : Skips (some '"') ['\\', c] (some '"') := by
  intro tail
  simp [splitAction]

theorem in_raw (hclose : c ≠ '`') : Skips (some '`') [c] (some '`') := by
  intro tail
  simp [splitAction_open, hclose]

/-- Characters through each of which a mark stays open. -/
theorem all (hc : ∀ c ∈ cs, Skips m [c] m) : Skips m cs m := by
  induction cs with
  | nil => exact nil m
  | cons c cs ih =>
    exact (hc c (List.mem_cons_self ..)).append (ih fun d hd => hc d (List.mem_cons_of_mem c hd))

end Skips

/-! ### What the scanner takes -/

theorem plain_of {p : Char → Bool} {c : Char} (hquote : p '"' = false) (hraw : p '`' = false)
    (hbrace : p '\x7d' = false) (hc : p c = true) : Plain c := by
  refine ⟨?_, ?_, ?_⟩
  · rintro rfl
    cases hquote.symm.trans hc
  · rintro rfl
    cases hraw.symm.trans hc
  · rintro rfl
    cases hbrace.symm.trans hc

theorem plain_of_blank {c : Char} (h : Text.isBlank c = true) : Plain c :=
  plain_of (by decide) (by decide) (by decide) h

theorem plain_of_digit {c : Char} (h : c.isDigit = true) : Plain c :=
  plain_of (by decide) (by decide) (by decide) h

theorem plain_of_fieldChar {c : Char} (h : isFieldChar c = true) : Plain c :=
  plain_of (by decide) (by decide) (by decide) h

theorem plain_of_nameStart {c : Char} (h : isNameStart c = true) : Plain c :=
  plain_of (by decide) (by decide) (by decide) h

theorem plain_of_nameChar {c : Char} (h : isNameChar c = true) : Plain c :=
  plain_of (by decide) (by decide) (by decide) h

/-- A span of characters of one kind, all of them plain. -/
theorem Skips.takeWhile {p : Char → Bool} (hp : ∀ c, p c = true → Plain c) (cs : List Char) :
    Skips none (cs.takeWhile p) none := by
  refine .all ?_
  intro c hc
  exact .plain (hp c (List.all_eq_true.mp List.all_takeWhile c hc))

/-- What is read from `cs` up to `rest` takes the search from one open mark to another. -/
def Takes (m : Option Char) (cs rest : List Char) (m' : Option Char) : Prop :=
  ∃ taken, cs = taken ++ rest ∧ Skips m taken m'

theorem Takes.trans (h : Takes m cs ds m') (h' : Takes m' ds rest m'') : Takes m cs rest m'' := by
  obtain ⟨taken, rfl, htaken⟩ := h
  obtain ⟨taken', rfl, htaken'⟩ := h'
  exact ⟨taken ++ taken', (List.append_assoc ..).symm, htaken.append htaken'⟩

theorem Skips.takes (h : Skips m cs m') (rest : List Char) : Takes m (cs ++ rest) rest m' :=
  ⟨cs, rfl, h⟩

theorem takes_span {p : Char → Bool} (hp : ∀ c, p c = true → Plain c) (cs : List Char) :
    Takes none cs (cs.dropWhile p) none :=
  ⟨cs.takeWhile p, List.takeWhile_append_dropWhile.symm, .takeWhile hp cs⟩

theorem readPath_takes (fuel : Nat) (cs : List Char) :
    Takes none cs (readPath fuel cs).2 none := by
  induction fuel generalizing cs with
  | zero => exact (Skips.nil none).takes cs
  | succ fuel ih =>
    have hspan := takes_span @plain_of_fieldChar cs
    simp only [readPath]
    split
    · exact hspan
    · split
      · next rest heq =>
        rw [heq] at hspan
        have hpoint : Skips none ['.'] none := .plain (by decide)
        exact hspan.trans ((hpoint.takes rest).trans (ih rest))
      · exact hspan

theorem readQuoted_takes {s : List Char} (h : readQuoted cs = .ok (s, rest)) :
    Takes (some '"') cs rest none := by
  fun_induction readQuoted cs generalizing s with
  | case1 => cases h
  | case2 =>
    cases h
    exact Skips.close_quote.takes _
  | case3 => cases h
  | case4 => cases h
  | case5 c ds x hc ih =>
    obtain ⟨read, hread, hsame⟩ := ok_of_map h
    cases hsame
    exact ((Skips.escaped c).takes ds).trans (ih hread)
  | case6 c ds hclose hlast hescaped ih =>
    have hescape : c ≠ '\\' := by
      rintro rfl
      cases ds with
      | nil => exact hlast rfl rfl
      | cons d ds => exact hescaped d ds rfl rfl
    obtain ⟨read, hread, hsame⟩ := ok_of_map h
    cases hsame
    exact ((Skips.in_quote hescape hclose).takes ds).trans (ih hread)

theorem readRaw_takes {s : List Char} (h : readRaw cs = .ok (s, rest)) :
    Takes (some '`') cs rest none := by
  unfold readRaw at h
  split at h
  · cases h
  · next c ds heq =>
    cases h
    have hclose : c = '`' := by
      have hhead := List.head?_dropWhile_not (fun d => decide (d ≠ '`')) cs
      rw [heq] at hhead
      simpa using hhead
    have hopen : Skips (some '`') (cs.takeWhile (· ≠ '`')) (some '`') := by
      refine .all ?_
      intro d hd
      exact .in_raw (by simpa using List.all_eq_true.mp List.all_takeWhile d hd)
    have hspan := hopen.takes (cs.dropWhile (· ≠ '`'))
    rw [List.takeWhile_append_dropWhile, heq, hclose] at hspan
    exact hspan.trans (Skips.close_raw.takes rest)

/-- A token takes the search from outside all marks to outside all marks: its first character may
open one, and the others close it. -/
theorem readToken_takes {t : Token} (h : readToken c cs = .ok (t, rest)) :
    ∃ m, Skips none [c] m ∧ Takes m cs rest none := by
  have hplain : Plain c → Takes none cs rest none → ∃ m, Skips none [c] m ∧ Takes m cs rest none :=
    fun hc htakes => ⟨none, .plain hc, htakes⟩
  have hnothing := (Skips.nil none).takes cs
  have hdigits := takes_span @plain_of_digit cs
  unfold readToken at h
  split at h
  · next hc =>
    cases h
    exact hplain (by subst hc; decide) hnothing
  split at h
  · next hc =>
    cases h
    exact hplain (by subst hc; decide) hnothing
  split at h
  · next hc =>
    cases h
    exact hplain (by subst hc; decide) hnothing
  split at h
  · next hc =>
    obtain ⟨-, rfl⟩ := Prod.mk.inj (Except.ok.inj h)
    exact hplain (by subst hc; decide) (readPath_takes (cs.length + 1) cs)
  split at h
  · next hc =>
    subst hc
    obtain ⟨⟨s, ds⟩, hread, hsame⟩ := ok_of_map h
    cases hsame
    exact ⟨some '"', .open_quote, readQuoted_takes hread⟩
  split at h
  · next hc =>
    subst hc
    obtain ⟨⟨s, ds⟩, hread, hsame⟩ := ok_of_map h
    cases hsame
    exact ⟨some '`', .open_raw, readRaw_takes hread⟩
  split at h
  · next hc =>
    obtain ⟨number, -, hsame⟩ := ok_of_map h
    cases hsame
    exact hplain (plain_of_digit hc) hdigits
  split at h
  · next hc =>
    obtain ⟨number, -, hsame⟩ := ok_of_map h
    cases hsame
    simp only [Bool.and_eq_true, decide_eq_true_eq] at hc
    exact hplain (by rw [hc.1]; decide) hdigits
  split at h
  · next hc =>
    cases h
    exact hplain (plain_of_nameStart hc) (takes_span @plain_of_nameChar cs)
  · cases h

theorem scanFrom_skips {fuel : Nat} {ts : List Token} (hfuel : cs.length ≤ fuel)
    (h : scanFrom fuel cs = .ok ts) : Skips none cs none := by
  induction fuel generalizing cs ts with
  | zero =>
    rw [List.length_eq_zero_iff.mp (Nat.le_zero.mp hfuel)]
    exact .nil none
  | succ fuel ih =>
    cases cs with
    | nil => exact .nil none
    | cons c cs =>
      have hlength : cs.length ≤ fuel := Nat.le_of_succ_le_succ hfuel
      rw [scanFrom] at h
      split at h
      · next hblank => exact (Skips.plain (plain_of_blank hblank)).append (ih hlength h)
      · obtain ⟨⟨t, rest⟩, hread, hothers⟩ := ok_of_bind h
        obtain ⟨ts', hscan, -⟩ := ok_of_bind hothers
        obtain ⟨m, hc, taken, rfl, htaken⟩ := readToken_takes hread
        have hrest := ih (by simp only [List.length_append] at hlength; omega) hscan
        exact hc.append (htaken.append hrest)

/-- The search for the end of an action that has tokens finds the braces behind it. -/
theorem splitAction_of_scan {ts : List Token} (h : scan cs = .ok ts) (rest : List Char) :
    splitAction none (cs ++ '\x7d' :: '\x7d' :: rest) = some (cs, rest) := by
  rw [scanFrom_skips (Nat.le_refl _) h]
  simp [splitAction]

end TicketSync.Template
