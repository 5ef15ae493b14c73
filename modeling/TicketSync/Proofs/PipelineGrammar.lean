import TicketSync.Proofs.RecordCodec
import TicketSync.Template.Pipeline

/-! # The pipelines that tokens have

The parser reads exactly the well-formed pipelines, each from its own spelling. What it has read it
spells back, by induction on its steps. In the other direction it goes through a spelling by
recursion on the pipeline, where what follows each part is a token that ends the part, and the steps
are counted by the tokens. -/
namespace TicketSync.Template

theorem eq_token_of_flag? {f : String} {b : Bool} (h : flag? f = some b) :
    Literal.token (.flag b) = .name f := by
  unfold flag? at h
  split at h
  · cases h
    rfl
  · cases h
    rfl
  · cases h

variable {fs : Functions} {fuel : Nat} {ts rest : List Token}

/-! ### What has been read -/

theorem eq_of_parseTerm_none (h : parseTerm fs fuel ts = .ok (none, rest)) : ts = rest := by
  cases fuel with
  | zero => cases h
  | succ fuel =>
    unfold parseTerm at h
    split at h
    · cases h
      rfl
    · cases h
      rfl
    · cases h
      rfl
    · cases h
    · cases h
    · cases h
    · split at h <;> cases h
    · obtain ⟨⟨p, ts'⟩, -, hclose⟩ := ok_of_bind h
      split at hclose <;> cases hclose

/-- Whatever is read with so much fuel is well formed, and its spelling is what was read. -/
structure SpellsBack (fs : Functions) (fuel : Nat) : Prop where
  pipeline : ∀ {ts p rest}, parsePipeline fs fuel ts = .ok (p, rest) →
    ts = Pipeline.flat p ++ rest ∧ Pipeline.WellFormed fs p
  stages : ∀ {ts cs rest}, parseStages fs fuel ts = .ok (cs, rest) →
    ts = Pipeline.flatStages cs ++ rest ∧ Pipeline.StagesWellFormed fs cs
  command : ∀ {ts c rest}, parseCommand fs fuel ts = .ok (c, rest) →
    ts = c.flat ++ rest ∧ c.WellFormed fs
  value : ∀ {ts c rest}, parseValue fs fuel ts = .ok (c, rest) →
    ts = c.flat ++ rest ∧ c.WellFormed fs
  terms : ∀ {ts args rest}, parseTerms fs fuel ts = .ok (args, rest) →
    ts = Term.flatAll args ++ rest ∧ Term.AllWellFormed fs args
  term : ∀ {ts t rest}, parseTerm fs fuel ts = .ok (some t, rest) →
    ts = t.flat ++ rest ∧ t.WellFormed fs

namespace SpellsBack

variable (h : SpellsBack fs fuel)
include h

theorem pipeline_succ {p : Pipeline} (hp : parsePipeline fs (fuel + 1) ts = .ok (p, rest)) :
    ts = Pipeline.flat p ++ rest ∧ Pipeline.WellFormed fs p := by
  rw [parsePipeline] at hp
  obtain ⟨⟨c, ts'⟩, hfirst, hp⟩ := ok_of_bind hp
  obtain ⟨⟨cs, ts''⟩, hothers, hp⟩ := ok_of_bind hp
  cases hp
  obtain ⟨rfl, hc⟩ := h.command hfirst
  obtain ⟨rfl, hcs⟩ := h.stages hothers
  exact ⟨by simp [Pipeline.flat], hc, hcs⟩

theorem stages_succ {cs : Pipeline} (hs : parseStages fs (fuel + 1) ts = .ok (cs, rest)) :
    ts = Pipeline.flatStages cs ++ rest ∧ Pipeline.StagesWellFormed fs cs := by
  unfold parseStages at hs
  split at hs
  · cases hs
  · next heq =>
    cases heq
    obtain ⟨⟨c, ts'⟩, hfirst, hstage⟩ := ok_of_bind hs
    obtain ⟨rfl, hc⟩ := h.command hfirst
    cases c with
    | term t => cases hstage
    | call f args =>
      obtain ⟨⟨cs, ts''⟩, hothers, hend⟩ := ok_of_bind hstage
      cases hend
      obtain ⟨rfl, hcs⟩ := h.stages hothers
      exact ⟨by simp [Pipeline.flatStages], hc.1, hc.2, hcs⟩
  · cases hs
    exact ⟨rfl, trivial⟩

theorem command_succ {c : Command} (hc : parseCommand fs (fuel + 1) ts = .ok (c, rest)) :
    ts = c.flat ++ rest ∧ c.WellFormed fs := by
  unfold parseCommand at hc
  split at hc
  · next f ts =>
    cases hflag : flag? f with
    | some b =>
      simp only [hflag] at hc
      exact h.value hc
    | none =>
      simp only [hflag] at hc
      split at hc
      · next hf =>
        obtain ⟨⟨args, ts'⟩, hread, hc⟩ := ok_of_bind hc
        cases hc
        obtain ⟨rfl, hargs⟩ := h.terms hread
        exact ⟨by simp [Command.flat], ⟨hf, hflag⟩, hargs⟩
      · cases hc
  · exact h.value hc

theorem value_succ {c : Command} (hc : parseValue fs (fuel + 1) ts = .ok (c, rest)) :
    ts = c.flat ++ rest ∧ c.WellFormed fs := by
  rw [parseValue] at hc
  obtain ⟨⟨t, ts'⟩, hread, hc⟩ := ok_of_bind hc
  cases t with
  | none => cases hc
  | some t =>
    have ht := h.term hread
    cases ts' with
    | nil =>
      cases hc
      exact ht
    | cons next ts' =>
      dsimp only at hc
      split at hc
      · cases hc
        exact ht
      · cases hc

theorem terms_succ {args : List Term} (ha : parseTerms fs (fuel + 1) ts = .ok (args, rest)) :
    ts = Term.flatAll args ++ rest ∧ Term.AllWellFormed fs args := by
  rw [parseTerms] at ha
  obtain ⟨⟨t, ts'⟩, hread, ha⟩ := ok_of_bind ha
  cases t with
  | none =>
    cases ha
    exact ⟨eq_of_parseTerm_none hread, trivial⟩
  | some t =>
    obtain ⟨⟨args, ts''⟩, hothers, ha⟩ := ok_of_bind ha
    cases ha
    obtain ⟨rfl, ht⟩ := h.term hread
    obtain ⟨rfl, hargs⟩ := h.terms hothers
    exact ⟨by simp [Term.flatAll], ht, hargs⟩

theorem term_succ {t : Term} (ht : parseTerm fs (fuel + 1) ts = .ok (some t, rest)) :
    ts = t.flat ++ rest ∧ t.WellFormed fs := by
  cases ts with
  | nil => cases ht
  | cons first ts =>
    cases first with
    | pipe => cases ht
    | closeParen => cases ht
    | field path =>
      cases ht
      exact ⟨rfl, trivial⟩
    | text s =>
      cases ht
      exact ⟨rfl, trivial⟩
    | number n =>
      cases ht
      exact ⟨rfl, trivial⟩
    | name f =>
      simp only [parseTerm] at ht
      cases hflag : flag? f with
      | none => simp [hflag] at ht
      | some b =>
        simp only [hflag] at ht
        cases ht
        exact ⟨by simp [Term.flat, eq_token_of_flag? hflag], trivial⟩
    | openParen =>
      simp only [parseTerm] at ht
      obtain ⟨⟨p, ts'⟩, hread, hclose⟩ := ok_of_bind ht
      obtain ⟨rfl, hp⟩ := h.pipeline hread
      split at hclose
      · next heq =>
        cases heq
        cases hclose
        exact ⟨by simp [Term.flat], hp⟩
      · cases hclose

end SpellsBack

theorem spellsBack (fs : Functions) (fuel : Nat) : SpellsBack fs fuel := by
  induction fuel with
  | zero => constructor <;> intros <;> contradiction
  | succ fuel ih =>
    exact ⟨ih.pipeline_succ, ih.stages_succ, ih.command_succ, ih.value_succ, ih.terms_succ,
      ih.term_succ⟩

/-! ### What is spelled is read -/

/-- Tokens at which a command ends. -/
def CommandEnds (rest : List Token) : Prop := ∀ t ∈ rest.head?, t.endsCommand = true

/-- Tokens at which a pipeline ends. -/
def PipelineEnds (rest : List Token) : Prop := ∀ t ∈ rest.head?, t = .closeParen

theorem PipelineEnds.command (h : PipelineEnds rest) : CommandEnds rest := by
  intro t ht
  rw [h t ht]
  rfl

theorem PipelineEnds.stages (h : PipelineEnds rest) (cs : List Command) :
    CommandEnds (Pipeline.flatStages cs ++ rest) := by
  cases cs with
  | nil => exact h.command
  | cons c cs =>
    intro t ht
    cases ht
    rfl

theorem parseTerm_of_ends (h : CommandEnds rest) (fuel : Nat) :
    parseTerm fs (fuel + 1) rest = .ok (none, rest) := by
  cases rest with
  | nil => rfl
  | cons t rest =>
    have ht := h t rfl
    cases t with
    | pipe => rfl
    | closeParen => rfl
    | field path => cases ht
    | text s => cases ht
    | number n => cases ht
    | name f => cases ht
    | openParen => cases ht

theorem parseStages_of_ends (h : PipelineEnds rest) (fuel : Nat) :
    parseStages fs (fuel + 1) rest = .ok ([], rest) := by
  cases rest with
  | nil => rfl
  | cons t rest =>
    rw [h t rfl]
    rfl

/-- A command that is a term is not taken for a call. -/
theorem parseCommand_term (t : Term) (fuel : Nat) (rest : List Token) :
    parseCommand fs (fuel + 1) (t.flat ++ rest) = parseValue fs fuel (t.flat ++ rest) := by
  cases t with
  | field path => rfl
  | sub p => rfl
  | literal l =>
    cases l with
    | text s => rfl
    | number n => rfl
    | flag b => cases b <;> rfl

theorem parseValue_of_term {t : Term} (ht : parseTerm fs fuel ts = .ok (some t, rest))
    (h : CommandEnds rest) : parseValue fs (fuel + 1) ts = .ok (.term t, rest) := by
  rw [parseValue, ht]
  cases rest with
  | nil => rfl
  | cons next rest =>
    have hnext := h next rfl
    simp only [bind, Except.bind, hnext, if_true]
    rfl

theorem Term.flat_length_pos (t : Term) : 0 < t.flat.length := by
  cases t <;> simp [Term.flat]

-- Between two tokens there are at most six calls. The few steps on top are for the calls that a part
-- makes before its first token, so that a part without tokens has enough of them as well.
mutual
theorem parseTerm_flat (fuel : Nat) (rest : List Token) (t : Term) (h : t.WellFormed fs)
    (hfuel : 6 * t.flat.length ≤ fuel) :
    parseTerm fs fuel (t.flat ++ rest) = .ok (some t, rest) := by
  have hpos := t.flat_length_pos
  obtain ⟨fuel, rfl⟩ := Nat.exists_eq_succ_of_ne_zero (show fuel ≠ 0 by omega)
  cases t with
  | field path => rfl
  | literal l =>
    cases l with
    | text s => rfl
    | number n => rfl
    | flag b => cases b <;> rfl
  | sub p =>
    have hlength : (Term.sub p).flat.length = (Pipeline.flat p).length + 2 := by
      simp [Term.flat]
    have hp := parsePipeline_flat fuel (.closeParen :: rest) p h
      (by simp [PipelineEnds]) (by omega)
    simp [Term.flat, parseTerm, hp, bind, Except.bind, pure, Except.pure]

theorem parseTerms_flat (fuel : Nat) (rest : List Token) (args : List Term)
    (h : Term.AllWellFormed fs args) (hend : CommandEnds rest)
    (hfuel : 6 * (Term.flatAll args).length + 2 ≤ fuel) :
    parseTerms fs fuel (Term.flatAll args ++ rest) = .ok (args, rest) := by
  obtain ⟨fuel, rfl⟩ := Nat.exists_eq_succ_of_ne_zero (show fuel ≠ 0 by omega)
  cases args with
  | nil =>
    obtain ⟨fuel, rfl⟩ := Nat.exists_eq_succ_of_ne_zero (show fuel ≠ 0 by omega)
    simp [Term.flatAll, parseTerms, parseTerm_of_ends hend, bind, Except.bind, pure, Except.pure]
  | cons t args =>
    simp only [Term.flatAll, List.length_append] at hfuel
    have hpos := t.flat_length_pos
    have ht := parseTerm_flat fuel (Term.flatAll args ++ rest) t h.1 (by omega)
    have hargs := parseTerms_flat fuel rest args h.2 hend (by omega)
    simp [Term.flatAll, parseTerms, ht, hargs, bind, Except.bind, pure, Except.pure]

theorem parseCommand_flat (fuel : Nat) (rest : List Token) (c : Command) (h : c.WellFormed fs)
    (hend : CommandEnds rest) (hfuel : 6 * c.flat.length + 2 ≤ fuel) :
    parseCommand fs fuel (c.flat ++ rest) = .ok (c, rest) := by
  obtain ⟨fuel, rfl⟩ := Nat.exists_eq_succ_of_ne_zero (show fuel ≠ 0 by omega)
  cases c with
  | call f args =>
    simp only [Command.flat, List.length_cons] at hfuel
    obtain ⟨⟨hknown, hflag⟩, hargs⟩ := h
    have hread := parseTerms_flat fuel rest args hargs hend (by omega)
    simp [Command.flat, parseCommand, hflag, hknown, hread, bind, Except.bind, pure, Except.pure]
  | term t =>
    simp only [Command.flat] at hfuel
    obtain ⟨fuel, rfl⟩ := Nat.exists_eq_succ_of_ne_zero (show fuel ≠ 0 by omega)
    have ht := parseTerm_flat fuel rest t h (by omega)
    simpa [Command.flat, parseCommand_term] using parseValue_of_term ht hend

theorem parsePipeline_flat (fuel : Nat) (rest : List Token) (p : List Command)
    (h : Pipeline.WellFormed fs p) (hend : PipelineEnds rest)
    (hfuel : 6 * (Pipeline.flat p).length + 3 ≤ fuel) :
    parsePipeline fs fuel (Pipeline.flat p ++ rest) = .ok (p, rest) := by
  obtain ⟨fuel, rfl⟩ := Nat.exists_eq_succ_of_ne_zero (show fuel ≠ 0 by omega)
  cases p with
  | nil => exact h.elim
  | cons c cs =>
    simp only [Pipeline.flat, List.length_append] at hfuel
    have hc := parseCommand_flat fuel _ c h.1 (hend.stages cs) (by omega)
    have hcs := parseStages_flat fuel rest cs h.2 hend (by omega)
    simp [Pipeline.flat, parsePipeline, hc, hcs, bind, Except.bind, pure, Except.pure]

theorem parseStages_flat (fuel : Nat) (rest : List Token) (cs : List Command)
    (h : Pipeline.StagesWellFormed fs cs) (hend : PipelineEnds rest)
    (hfuel : 6 * (Pipeline.flatStages cs).length + 1 ≤ fuel) :
    parseStages fs fuel (Pipeline.flatStages cs ++ rest) = .ok (cs, rest) := by
  obtain ⟨fuel, rfl⟩ := Nat.exists_eq_succ_of_ne_zero (show fuel ≠ 0 by omega)
  cases cs with
  | nil => exact parseStages_of_ends hend fuel
  | cons c cs =>
    simp only [Pipeline.flatStages, List.cons_append, List.length_cons, List.length_append] at hfuel
    cases c with
    | term t => exact h.elim
    | call f args =>
      have hc := parseCommand_flat fuel _ (.call f args) ⟨h.1, h.2.1⟩ (hend.stages cs)
        (by omega)
      have hcs := parseStages_flat fuel rest cs h.2.2 hend (by omega)
      simp [Pipeline.flatStages, parseStages, hc, hcs, bind, Except.bind, pure, Except.pure]
end

theorem Pipeline.parse_flat {p : Pipeline} (h : Pipeline.WellFormed fs p) :
    Pipeline.parse? fs (Pipeline.flat p) = .ok p := by
  have hread := parsePipeline_flat (parseFuel (Pipeline.flat p).length) [] p h
    (by simp [PipelineEnds]) (by simp only [parseFuel]; omega)
  rw [List.append_nil] at hread
  simp only [Pipeline.parse?, hread, bind, Except.bind]
  rfl

/-- No two well-formed pipelines are spelled alike. -/
theorem Pipeline.flat_inj {p q : Pipeline} (hp : Pipeline.WellFormed fs p)
    (hq : Pipeline.WellFormed fs q) (h : Pipeline.flat p = Pipeline.flat q) : p = q := by
  have hparse := Pipeline.parse_flat hp
  rw [h, Pipeline.parse_flat hq] at hparse
  exact (Except.ok.inj hparse).symm

/-- The parser accepts exactly the spellings of well-formed pipelines, each as the pipeline that it
spells. -/
theorem Pipeline.parse_eq_ok_iff (fs : Functions) (ts : List Token) (p : Pipeline) :
    Pipeline.parse? fs ts = .ok p ↔ Pipeline.flat p = ts ∧ Pipeline.WellFormed fs p := by
  constructor
  · intro h
    obtain ⟨⟨p', rest⟩, hread, hend⟩ := ok_of_bind h
    cases rest with
    | cons t rest => cases hend
    | nil =>
      cases hend
      obtain ⟨rfl, hp⟩ := (spellsBack fs _).pipeline hread
      exact ⟨(List.append_nil _).symm, hp⟩
  · rintro ⟨rfl, h⟩
    exact Pipeline.parse_flat h

end TicketSync.Template
