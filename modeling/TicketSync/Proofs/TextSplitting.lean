import TicketSync.Proofs.ActionBytes

/-! # The pieces of a template

A template is read as texts with actions between them, and only one way of cutting it is read: a
text has no opening braces and does not end in half of them, and an action is a pipeline, so it ends
at the first closing braces outside of its quotation marks. -/
namespace TicketSync.Template

variable {fs : Functions} {t cs rest : List Char} {c : Char}

/-- A text without opening braces. -/
def Unopened (t : List Char) : Prop := ¬['\x7b', '\x7b'] <:+: t

theorem Unopened.nil : Unopened [] := by
  intro h
  simpa using h.length_le

theorem opens_iff : ['\x7b', '\x7b'] <+: c :: cs ↔ c = '\x7b' ∧ cs.head? = some '\x7b' := by
  cases cs with
  | nil => simp
  | cons d cs => simp [eq_comm]

theorem unopened_cons_iff :
    Unopened (c :: t) ↔ ¬(c = '\x7b' ∧ t.head? = some '\x7b') ∧ Unopened t := by
  rw [Unopened, List.infix_cons_iff, opens_iff, not_or]
  rfl

/-- Where no opening braces begin, the text goes on by one character. -/
theorem beforeAction_cons (h : ¬(c = '\x7b' ∧ cs.head? = some '\x7b')) :
    beforeAction (c :: cs) = (c :: (beforeAction cs).1, (beforeAction cs).2) := by
  refine beforeAction.eq_3 c cs ?_
  rintro ds rfl rfl
  exact h ⟨rfl, rfl⟩

theorem beforeAction_unopened (h : Unopened t) : beforeAction t = (t, none) := by
  induction t with
  | nil => rfl
  | cons c t ih =>
    obtain ⟨hgoes, htail⟩ := unopened_cons_iff.mp h
    rw [beforeAction_cons hgoes, ih htail]

theorem beforeAction_opened (h : Unopened t) (hend : t.getLast? ≠ some '\x7b') (rest : List Char) :
    beforeAction (t ++ '\x7b' :: '\x7b' :: rest) = (t, some rest) := by
  induction t with
  | nil => rfl
  | cons c t ih =>
    obtain ⟨hgoes, htail⟩ := unopened_cons_iff.mp h
    cases t with
    | nil =>
      have hc : c ≠ '\x7b' := by simpa using hend
      rw [List.cons_append, beforeAction_cons fun hopen => hc hopen.1, ih htail (by simp)]
    | cons d t =>
      rw [List.getLast?_cons_cons] at hend
      have hgoes' : ¬(c = '\x7b' ∧ (d :: t ++ '\x7b' :: '\x7b' :: rest).head? = some '\x7b') := hgoes
      rw [List.cons_append, beforeAction_cons hgoes', ih htail hend]

/-- A text of a template with the action behind it. -/
structure Slot where
  text : List Char
  source : List Char
  pipeline : Pipeline

namespace Slot

/-- The slot as it stands in a template. -/
def spell (s : Slot) : List Char :=
  s.text ++ '\x7b' :: '\x7b' :: (s.source ++ ['\x7d', '\x7d'])

/-- The pieces that a slot is read as. -/
def parts (s : Slot) : List Part := textPart s.text ++ [.action s.pipeline]

/-- A slot whose text ends where its action begins, and whose action is a pipeline. -/
structure Fits (fs : Functions) (s : Slot) : Prop where
  unopened : Unopened s.text
  no_brace_last : s.text.getLast? ≠ some '\x7b'
  reads : Pipeline.read? fs s.source = .ok s.pipeline

end Slot

theorem scan_of_read {p : Pipeline} (h : Pipeline.read? fs cs = .ok p) : ∃ ts, scan cs = .ok ts := by
  unfold Pipeline.read? at h
  cases hscan : scan cs with
  | error fault => simp [hscan] at h
  | ok ts => exact ⟨ts, rfl⟩

theorem readParts_spell {fuel : Nat} {slots : List Slot} {last : List Char}
    (hslots : ∀ s ∈ slots, s.Fits fs) (hlast : Unopened last)
    (hfuel : (slots.flatMap Slot.spell ++ last).length ≤ fuel) :
    readParts fs fuel (slots.flatMap Slot.spell ++ last) =
      .ok (slots.flatMap Slot.parts ++ textPart last) := by
  induction slots generalizing fuel with
  | nil =>
    cases fuel with
    | zero => rfl
    | succ fuel => simp [readParts, beforeAction_unopened hlast]
  | cons s slots ih =>
    have hs := hslots s (List.mem_cons_self ..)
    have hothers := fun s' h => hslots s' (List.mem_cons_of_mem s h)
    have hshape : (s :: slots).flatMap Slot.spell ++ last = s.text ++ '\x7b' :: '\x7b' ::
        (s.source ++ '\x7d' :: '\x7d' :: (slots.flatMap Slot.spell ++ last)) := by
      simp [Slot.spell]
    rw [hshape] at hfuel ⊢
    simp only [List.length_append, List.length_cons] at hfuel
    obtain ⟨fuel, rfl⟩ := Nat.exists_eq_succ_of_ne_zero (show fuel ≠ 0 by omega)
    obtain ⟨ts, hscan⟩ := scan_of_read hs.reads
    have hrest := @ih fuel hothers (by simp only [List.length_append]; omega)
    simp only [readParts, beforeAction_opened hs.unopened hs.no_brace_last,
      splitAction_of_scan hscan, hs.reads, hrest, bind, Except.bind]
    simp [Slot.parts, pure, Except.pure]

end TicketSync.Template
