import TicketSync.Proofs.RecordCodec
import TicketSync.Vars.Evaluation

/-! # What rendering makes of variables

Variables are rendered one by one in the order of their names, so either all of them have a text, or
the failure is that of the first name whose template has none. What was rendered is marked, and
the mark alone keeps its texts from being read as templates again. -/
namespace TicketSync

section
variable {α β ε : Type} {f : α → Except ε β} {xs : List α} {ys : List β} {e : ε}

theorem exists_of_mapM_eq_ok (h : xs.mapM f = .ok ys) {x : α} (hx : x ∈ xs) :
    ∃ y ∈ ys, f x = .ok y := by
  have hmem : f x ∈ ys.map .ok := map_eq_of_mapM_eq_ok h ▸ List.mem_map_of_mem hx
  obtain ⟨y, hy, hfx⟩ := List.mem_map.mp hmem
  exact ⟨y, hy, hfx.symm⟩

theorem map_eq_map_of_mapM {γ : Type} {g : α → γ} {k : β → γ} (h : xs.mapM f = .ok ys)
    (hf : ∀ x y, f x = .ok y → k y = g x) : ys.map k = xs.map g := by
  induction xs generalizing ys with
  | nil =>
    cases h
    rfl
  | cons x xs ih =>
    rw [List.mapM_cons] at h
    obtain ⟨y, hy, hrest⟩ := ok_of_bind h
    obtain ⟨zs, hzs, hys⟩ := ok_of_bind hrest
    cases hys
    rw [List.map_cons, List.map_cons, hf x y hy, ih hzs]

/-- Mapping a list fails as its first member that fails. -/
theorem mapM_eq_error_iff : xs.mapM f = .error e ↔
    ∃ before x after, xs = before ++ x :: after ∧ f x = .error e ∧
      ∀ y ∈ before, ∃ z, f y = .ok z := by
  induction xs with
  | nil => simp [pure, Except.pure]
  | cons x xs ih =>
    rw [List.mapM_cons]
    constructor
    · intro h
      cases hx : f x with
      | error e' =>
        rw [hx] at h
        cases h
        exact ⟨[], x, xs, rfl, hx, by simp⟩
      | ok y =>
        cases hxs : xs.mapM f with
        | ok ys => simp [hx, hxs, bind, Except.bind, pure, Except.pure] at h
        | error e' =>
          simp only [hx, hxs, bind, Except.bind, Except.error.injEq] at h
          obtain ⟨before, z, after, rfl, hz, hbefore⟩ := ih.mp (h ▸ hxs)
          exact ⟨x :: before, z, after, rfl, hz, List.forall_mem_cons.mpr ⟨⟨y, hx⟩, hbefore⟩⟩
    · rintro ⟨before, z, after, hsplit, hz, hbefore⟩
      cases before with
      | nil =>
        obtain ⟨rfl, rfl⟩ := List.cons.inj hsplit
        rw [hz]
        rfl
      | cons w before =>
        obtain ⟨rfl, rfl⟩ := List.cons.inj hsplit
        obtain ⟨⟨y, hy⟩, hrest⟩ := List.forall_mem_cons.mp hbefore
        rw [hy, ih.mpr ⟨before, z, after, rfl, hz, hrest⟩]
        rfl

/-- Mapping a list succeeds where it does on every member. -/
theorem exists_mapM_eq_ok_iff : (∃ ys, xs.mapM f = .ok ys) ↔ ∀ x ∈ xs, ∃ y, f x = .ok y := by
  constructor
  · rintro ⟨ys, h⟩ x hx
    obtain ⟨y, -, hy⟩ := exists_of_mapM_eq_ok h hx
    exact ⟨y, hy⟩
  · intro hall
    cases h : xs.mapM f with
    | ok ys => exact ⟨ys, rfl⟩
    | error e =>
      obtain ⟨before, x, after, rfl, hx, -⟩ := mapM_eq_error_iff.mp h
      obtain ⟨y, hy⟩ := hall x (List.mem_append_right _ List.mem_cons_self)
      rw [hx] at hy
      cases hy

end

namespace Template

variable {fs : Functions} {ctx : Json} {src text : String}

/-- A source that is a template, with the text that the template has in a context. -/
def Renders (fs : Functions) (ctx : Json) (src text : String) : Prop :=
  ∃ t, parse? fs src = .ok t ∧ t.renderIn fs ctx = .ok text

/-- A source that has no text in a context, with the message of the fault: of its parse if it is no
template, else of its rendering. -/
inductive FailsToRender (fs : Functions) (ctx : Json) (src : String) : String → Prop
  | parse {fault : ParseFault} (h : parse? fs src = .error fault) :
      FailsToRender fs ctx src fault.message
  | render {t : Template} {fault : EvalFault} (parsed : parse? fs src = .ok t)
      (h : t.renderIn fs ctx = .error fault) : FailsToRender fs ctx src fault.message

theorem renderSource_of_parse {t : Template} (h : parse? fs src = .ok t) :
    renderSource fs ctx src = (t.renderIn fs ctx).mapError .eval := by
  rw [renderSource, h]

theorem renderSource_eq_ok_iff : renderSource fs ctx src = .ok text ↔ Renders fs ctx src text := by
  constructor
  · intro h
    cases hparse : parse? fs src with
    | error fault =>
      rw [renderSource, hparse] at h
      cases h
    | ok t =>
      rw [renderSource_of_parse hparse] at h
      cases hrender : t.renderIn fs ctx with
      | error fault =>
        rw [hrender] at h
        cases h
      | ok text' =>
        rw [hrender] at h
        cases h
        exact ⟨t, hparse, hrender⟩
  · rintro ⟨t, hparse, hrender⟩
    rw [renderSource_of_parse hparse, hrender]
    rfl

theorem exists_fault_iff {message : String} :
    (∃ fault, renderSource fs ctx src = .error fault ∧ fault.message = message) ↔
      FailsToRender fs ctx src message := by
  constructor
  · rintro ⟨fault, h, rfl⟩
    cases hparse : parse? fs src with
    | error fault' =>
      rw [renderSource, hparse] at h
      cases h
      exact .parse hparse
    | ok t =>
      rw [renderSource_of_parse hparse] at h
      cases hrender : t.renderIn fs ctx with
      | ok text =>
        rw [hrender] at h
        cases h
      | error fault' =>
        rw [hrender] at h
        cases h
        exact .render hparse hrender
  · intro h
    cases h with
    | @parse fault hparse => exact ⟨.parse fault, by rw [renderSource, hparse], rfl⟩
    | @render t fault hparse hrender =>
      refine ⟨.eval fault, ?_, rfl⟩
      rw [renderSource_of_parse hparse, hrender]
      rfl

end Template

open Template

namespace Dict

variable {α : Type}

/-- What stands before an entry is what is filed under smaller keys. -/
theorem mem_before_iff {d : Dict α} {before after : List (String × α)} {k k' : String} {v v' : α}
    (h : d.entries = before ++ (k, v) :: after) :
    (k', v') ∈ before ↔ k' < k ∧ d.get? k' = some v' := by
  have hascending := d.ascending
  rw [h, List.pairwise_append, List.pairwise_cons] at hascending
  obtain ⟨-, ⟨hafter, -⟩, hbefore⟩ := hascending
  rw [← mem_entries_iff, h]
  constructor
  · intro hmem
    exact ⟨hbefore _ hmem _ List.mem_cons_self, List.mem_append_left _ hmem⟩
  · rintro ⟨hlt, hmem⟩
    rcases List.mem_append.mp hmem with hmem | hmem
    · exact hmem
    · rcases List.mem_cons.mp hmem with heq | hmem
      · cases heq
        exact absurd hlt (String.lt_irrefl _)
      · exact absurd (String.lt_trans hlt (hafter _ hmem)) (String.lt_irrefl _)

/-- A list with the keys of a map is in order, so the map made of it has it as its entries. -/
theorem entries_ofList_of_keys {β : Type} {d : Dict α} {l : List (String × β)}
    (h : l.map (·.1) = d.entries.map (·.1)) : (ofList l).entries = l := by
  have hkeys : (l.map (·.1)).Pairwise (· < ·) := h ▸ List.pairwise_map.mpr d.ascending
  exact congrArg entries (ofList_entries ⟨l, List.pairwise_map.mp hkeys⟩)

end Dict

namespace Vars

variable {fs : Functions} {ctx : Json} {u : Update} {t : Ticket} {vars w : Vars}
  {name raw message : String} {f : Failure}

theorem renderOne_eq_ok_iff {e : String × String} :
    renderOne fs ctx name raw = .ok e ↔ e.1 = name ∧ Renders fs ctx raw e.2 := by
  obtain ⟨name', text⟩ := e
  rw [← renderSource_eq_ok_iff]
  unfold renderOne
  cases renderSource fs ctx raw <;> simp [eq_comm]

theorem renderOne_eq_error_iff :
    renderOne fs ctx name raw = .error f ↔
      ∃ message, f = .template name message ∧ FailsToRender fs ctx raw message := by
  simp only [← exists_fault_iff]
  unfold renderOne
  cases renderSource fs ctx raw <;> simp [eq_comm]

/-- Variables with the same names, each with the text of its own template. -/
structure RenderedTo (fs : Functions) (ctx : Json) (vars rendered : Vars) : Prop where
  names : rendered.values.keys = vars.values.keys
  texts : ∀ name src, vars.get? name = some src →
    ∃ text, rendered.get? name = some text ∧ Renders fs ctx src text
  marked : rendered.evaluated = true

/-- The failure of the first variable without a text, in the order of the names. -/
structure FailsFirst (fs : Functions) (ctx : Json) (vars : Vars) (name message : String) :
    Prop where
  fails : ∃ src, vars.get? name = some src ∧ FailsToRender fs ctx src message
  least : ∀ name' < name, ∀ src, vars.get? name' = some src → ∃ text, Renders fs ctx src text

/-- The rendering of every variable, by the entries. -/
abbrev renderAll (fs : Functions) (ctx : Json) (vars : Vars) : Outcome (List (String × String)) :=
  vars.toList.mapM fun e => renderOne fs ctx e.1 e.2

theorem evaluate_of_evaluated (h : vars.evaluated = true) : evaluate fs vars u t = .ok vars := by
  simp [evaluate, h]

theorem evaluate_of_not_evaluated (h : vars.evaluated = false) :
    evaluate fs vars u t =
      (renderAll fs (context u t) vars).map fun rendered => ⟨.ofList rendered, true⟩ := by
  simp only [evaluate, h, Bool.false_eq_true, if_false, renderAll]
  cases vars.toList.mapM fun e => renderOne fs (context u t) e.1 e.2 <;> rfl

theorem renderedTo_of_renderAll {l : List (String × String)} (h : renderAll fs ctx vars = .ok l) :
    RenderedTo fs ctx vars ⟨.ofList l, true⟩ := by
  have hkeys : l.map (·.1) = vars.values.entries.map (·.1) :=
    map_eq_map_of_mapM h fun e e' he => (renderOne_eq_ok_iff.mp he).1
  have hentries : (Dict.ofList l).entries = l := Dict.entries_ofList_of_keys hkeys
  refine ⟨by simpa [Dict.keys, hentries] using hkeys, ?_, rfl⟩
  intro name src hsrc
  obtain ⟨⟨name', text⟩, hmem, he⟩ :=
    exists_of_mapM_eq_ok h ((vars.values.mem_entries_iff name src).mpr hsrc)
  obtain ⟨rfl, hrenders⟩ := renderOne_eq_ok_iff.mp he
  refine ⟨text, ?_, hrenders⟩
  exact (Dict.mem_entries_iff _ _ _).mp (hentries.symm ▸ hmem)

theorem exists_renderAll_iff : (∃ l, renderAll fs ctx vars = .ok l) ↔
    ∀ name src, vars.get? name = some src → ∃ text, Renders fs ctx src text := by
  rw [exists_mapM_eq_ok_iff]
  constructor
  · intro h name src hsrc
    obtain ⟨e, he⟩ := h (name, src) ((vars.values.mem_entries_iff name src).mpr hsrc)
    exact ⟨e.2, (renderOne_eq_ok_iff.mp he).2⟩
  · rintro h ⟨name, src⟩ hmem
    obtain ⟨text, htext⟩ := h name src ((vars.values.mem_entries_iff name src).mp hmem)
    exact ⟨(name, text), renderOne_eq_ok_iff.mpr ⟨rfl, htext⟩⟩

/-- The entries before the first one that fails are those of the smaller names. -/
theorem renderAll_eq_error_iff : renderAll fs ctx vars = .error f ↔
    ∃ name message, f = .template name message ∧ FailsFirst fs ctx vars name message := by
  rw [mapM_eq_error_iff]
  constructor
  · rintro ⟨before, ⟨name, src⟩, after, hsplit, hfails, hbefore⟩
    obtain ⟨message, rfl, hmessage⟩ := renderOne_eq_error_iff.mp hfails
    have hmem : (name, src) ∈ vars.toList :=
      hsplit ▸ List.mem_append_right _ List.mem_cons_self
    have hget : vars.get? name = some src := (vars.values.mem_entries_iff name src).mp hmem
    refine ⟨name, message, rfl, ⟨src, hget, hmessage⟩, ?_⟩
    intro name' hlt src' hsrc'
    obtain ⟨e, he⟩ := hbefore _ ((Dict.mem_before_iff hsplit).mpr ⟨hlt, hsrc'⟩)
    exact ⟨e.2, (renderOne_eq_ok_iff.mp he).2⟩
  · rintro ⟨name, message, rfl, ⟨src, hget, hmessage⟩, hleast⟩
    obtain ⟨before, after, hsplit⟩ :=
      List.append_of_mem ((vars.values.mem_entries_iff name src).mpr hget)
    refine ⟨before, (name, src), after, hsplit,
      renderOne_eq_error_iff.mpr ⟨message, rfl, hmessage⟩, ?_⟩
    rintro ⟨name', src'⟩ hmem
    obtain ⟨hlt, hsrc'⟩ := (Dict.mem_before_iff hsplit).mp hmem
    obtain ⟨text, htext⟩ := hleast name' hlt src' hsrc'
    exact ⟨(name', text), renderOne_eq_ok_iff.mpr ⟨rfl, htext⟩⟩

theorem evaluated_of_evaluate (h : evaluate fs vars u t = .ok w) : w.evaluated = true := by
  cases hmark : vars.evaluated with
  | true =>
    rw [evaluate_of_evaluated hmark] at h
    cases h
    exact hmark
  | false =>
    rw [evaluate_of_not_evaluated hmark] at h
    obtain ⟨l, -, rfl⟩ := ok_of_map h
    rfl

/-- What evaluating variables gives, of all of them and of one that fails. Evaluating once more, for
whatever update, ticket and functions, changes nothing. -/
theorem evaluate_law (fs : Functions) (vars : Vars) (u : Update) (t : Ticket) :
    (vars.evaluated = false →
      ((∃ w, evaluate fs vars u t = .ok w) ↔
        ∀ name src, vars.get? name = some src → ∃ text, Renders fs (context u t) src text) ∧
      (∀ w, evaluate fs vars u t = .ok w → RenderedTo fs (context u t) vars w) ∧
      ∀ f, evaluate fs vars u t = .error f ↔
        ∃ name message, f = .template name message ∧
          FailsFirst fs (context u t) vars name message) ∧
    (vars.evaluated = true → evaluate fs vars u t = .ok vars) ∧
    ∀ (fs' : Functions) (u' : Update) (t' : Ticket),
      (evaluate fs vars u t >>= fun w => evaluate fs' w u' t') = evaluate fs vars u t := by
  refine ⟨fun h => ?_, evaluate_of_evaluated, fun fs' u' t' => ?_⟩
  · rw [evaluate_of_not_evaluated h, ← exists_renderAll_iff]
    simp only [← renderAll_eq_error_iff]
    cases hall : renderAll fs (context u t) vars with
    | error f => simp [Except.map]
    | ok l =>
      refine ⟨by simp [Except.map], ?_, by simp [Except.map]⟩
      rintro w ⟨⟩
      exact renderedTo_of_renderAll hall
  · cases h : evaluate fs vars u t with
    | error f => rfl
    | ok w => exact evaluate_of_evaluated (evaluated_of_evaluate h)

/-- The name `b` comes before `c`, so its fault counts although `c` is not even a template. Alone,
the value of `a` has a text with braces in it, which evaluating it once more leaves alone. -/
theorem evaluate_law_braces :
    (∃ name message, Failure.template "b" "can't evaluate field Y in type string" =
        .template name message ∧
      FailsFirst (.standard .empty) (context default default)
        (.ofList [("c", "\x7b\x7b"), ("b", "\x7b\x7b.Update.Title.Y\x7d\x7d"),
          ("a", "\x7b\x7b`\x7b\x7b.X\x7d\x7d`\x7d\x7d")]) name message) ∧
    RenderedTo (.standard .empty) (context default default)
      (.ofList [("a", "\x7b\x7b`\x7b\x7b.X\x7d\x7d`\x7d\x7d")])
      ⟨.ofList [("a", "\x7b\x7b.X\x7d\x7d")], true⟩ ∧
    evaluate (.standard .empty) ⟨.ofList [("a", "\x7b\x7b.X\x7d\x7d")], true⟩ default default =
      .ok ⟨.ofList [("a", "\x7b\x7b.X\x7d\x7d")], true⟩ := by
  refine ⟨?_, ?_, ?_⟩
  · exact (((evaluate_law _ _ default default).1 rfl).2.2 _).mp (by decide +kernel)
  · exact ((evaluate_law _ _ default default).1 rfl).2.1 _ (by decide +kernel)
  · exact (evaluate_law _ _ default default).2.1 rfl

end Vars
end TicketSync
