import TicketSync.Source
import TicketSync.Proofs.FrameCodec

/-! # Documents read back from JSON

A value is read as it was written, with the fields of its objects in their order, or in normal form,
with the fields sorted by their keys. Records are read by the names of their fields, so a decoder
that finds each field in either form finds the record in both. -/
namespace TicketSync

/-! ### Values in normal form -/

theorem Dict.mem_of_get?_foldl_insert {α : Type} {l : List (String × α)} {d : Dict α} {k : String}
    {v : α} (h : (l.foldl (fun d e => d.insert e.1 e.2) d).get? k = some v) :
    (k, v) ∈ l ∨ d.get? k = some v := by
  induction l generalizing d with
  | nil => exact .inr h
  | cons e l ih =>
    rw [List.foldl_cons] at h
    rcases ih h with hl | hd
    · exact .inl (List.mem_cons_of_mem _ hl)
    · rw [get?_insert] at hd
      split at hd
      next hk =>
        obtain rfl := Option.some.inj hd
        exact .inl (hk ▸ List.mem_cons_self)
      next => exact .inr hd

theorem Dict.mem_of_get?_ofList {α : Type} {l : List (String × α)} {k : String} {v : α}
    (h : (ofList l).get? k = some v) : (k, v) ∈ l := by
  rcases mem_of_get?_foldl_insert h with hl | hempty
  · exact hl
  · cases hempty

theorem Dict.entries_ofList {α : Type} (l : List (String × α)) :
    (ofList l).entries = l.foldl (fun es e => put e.1 e.2 es) [] := by
  have hfold : ∀ d : Dict α, (l.foldl (fun d e => d.insert e.1 e.2) d).entries =
      l.foldl (fun es e => put e.1 e.2 es) d.entries := by
    induction l with
    | nil => exact fun _ => rfl
    | cons e l ih => exact fun d => ih (d.insert e.1 e.2)
  exact hfold .empty

namespace Json

theorem normalItems_eq_map (items : List Json) : normalItems items = items.map normal := by
  induction items with
  | nil => rfl
  | cons v items ih => simp [normalItems, ih]

theorem normal_arr (items : List Json) : (arr items).normal = .arr (normalItems items) := rfl

theorem normal_obj (fields : List (String × Json)) :
    (obj fields).normal =
      .obj ((normalFields fields).foldl (fun es e => Dict.put e.1 e.2 es) []) := by
  rw [normal, ofFields, ofDict, Dict.entries_ofList]

mutual
/-- A value in normal form is its own normal form. -/
theorem normal_normal : (v : Json) → v.normal.normal = v.normal
  | .null | .bool _ | .int _ | .real _ | .str _ => rfl
  | .arr items => by
    simp only [normal, normalItems_normalItems items]
  | .obj fields => by
    have hfixed :
        (Dict.ofList (normalFields fields)).map normal = .ofList (normalFields fields) := by
      apply Dict.ext_get?
      intro k
      rw [Dict.get?_map]
      cases hk : (Dict.ofList (normalFields fields)).get? k with
      | none => rfl
      | some v => exact congrArg some (normal_of_mem fields (Dict.mem_of_get?_ofList hk))
    rw [normal, ofFields, normal_ofDict, hfixed]

theorem normalItems_normalItems :
    (items : List Json) → normalItems (normalItems items) = normalItems items
  | [] => rfl
  | v :: items => by rw [normalItems, normalItems, normal_normal v, normalItems_normalItems items]

theorem normal_of_mem {k : String} {v : Json} :
    (fields : List (String × Json)) → (k, v) ∈ normalFields fields → v.normal = v
  | [], h => by cases h
  | (l, w) :: fields, h => by
    rw [normalFields, List.mem_cons] at h
    rcases h with h | h
    · obtain ⟨rfl, rfl⟩ := Prod.mk.inj h
      exact normal_normal w
    · exact normal_of_mem fields h
end

end Json

/-! ### Decoders of documents -/

/-- A decoder finds this in a value, whether or not the value has been put into normal form. -/
structure ReadsBack {α : Type} (decode : Json → Decoded α) (v : Json) (x : α) : Prop where
  written : decode v = .ok x
  normal : decode v.normal = .ok x

theorem ReadsBack.asList {α β : Type} {read : Json → Decoded β} {write : α → Json} {f : α → β}
    {l : List α} (h : ∀ x ∈ l, ReadsBack read (write x) (f x)) :
    ReadsBack (Source.asList read) (.arr (l.map write)) (l.map f) where
  written := mapM_map_ok fun x hx => (h x hx).written
  normal := by
    rw [Json.normal_arr, Json.normalItems_eq_map, List.map_map]
    exact mapM_map_ok fun x hx => (h x hx).normal

theorem ReadsBack.asList_self {α : Type} {read : Json → Decoded α} {write : α → Json} {l : List α}
    (h : ∀ x ∈ l, ReadsBack read (write x) x) :
    ReadsBack (Source.asList read) (.arr (l.map write)) l := by
  have hback := ReadsBack.asList (f := id) h
  rwa [List.map_id] at hback

theorem Source.asText_readsBack (s : String) : ReadsBack Source.asText (.str s) s :=
  ⟨rfl, rfl⟩

theorem Source.record_obj (names : List String) {fields : List (String × Json)}
    (h : fields.Pairwise fun a b => a.1 ≠ b.1) :
    ∃ r, record names (.obj fields) = .ok r ∧ ∀ k ∈ names, Dict.find k r = Dict.find k fields := by
  have hread : ∀ seen : List String, (∀ e ∈ fields, e.1 ∉ seen) →
      ∃ r, readEntries (fun name => if name ∈ names then some fun v => .ok (name, v) else none) seen
          (fields.map fun e => (Json.str e.1, e.2)) = .ok r ∧
        ∀ k ∈ names, Dict.find k r = Dict.find k fields := by
    induction fields with
    | nil => exact fun _ _ => ⟨[], rfl, fun _ _ => rfl⟩
    | cons e fields ih =>
      intro seen hseen
      obtain ⟨hfirst, hrest⟩ := List.pairwise_cons.mp h
      by_cases he : e.1 ∈ names
      · have hfresh : ∀ f ∈ fields, f.1 ∉ e.1 :: seen := by
          intro f hf hmem
          rcases List.mem_cons.mp hmem with heq | hmem
          · exact hfirst f hf heq.symm
          · exact hseen f (List.mem_cons_of_mem _ hf) hmem
        obtain ⟨r, hr, hfind⟩ := ih hrest (e.1 :: seen) hfresh
        refine ⟨e :: r, ?_, ?_⟩
        · simp [readEntries, asText, Json.asText, he, hseen e List.mem_cons_self, hr, bind,
            Except.bind, pure, Except.pure]
        · intro k hk
          simp [Dict.find, hfind k hk]
      · obtain ⟨r, hr, hfind⟩ := ih hrest seen fun f hf => hseen f (List.mem_cons_of_mem _ hf)
        refine ⟨r, ?_, ?_⟩
        · simpa [readEntries, asText, Json.asText, he, bind, Except.bind] using hr
        · intro k hk
          have hne : e.1 ≠ k := fun heq => he (heq ▸ hk)
          simp [Dict.find, hne, hfind k hk]
  exact hread [] fun _ _ => List.not_mem_nil

/-- A record reads back if its fields do, which are found by their names whatever their order.
`form` is the form that they are in. -/
theorem ReadsBack.record {α : Type} {decode : Json → Decoded α} {names : List String}
    {build : List (String × Json) → Decoded α} {fields : List (String × Json)} {x : α}
    (hdecode : ∀ v, decode v = Source.record names v >>= build)
    (h : fields.Pairwise fun a b => a.1 ≠ b.1)
    (hbuild : ∀ (form : Json → Json) (r : List (String × Json)),
      (∀ {β : Type} {read : Json → Decoded β} {v : Json} {y : β},
        ReadsBack read v y → read (form v) = .ok y) →
      (∀ k ∈ names, Dict.find k r = (Dict.find k fields).map form) → build r = .ok x) :
    ReadsBack decode (.obj fields) x := by
  constructor
  · obtain ⟨r, hr, hfind⟩ := Source.record_obj names h
    rw [hdecode, hr]
    exact hbuild id r ReadsBack.written fun k hk => by rw [hfind k hk, Option.map_id_fun, id]
  · have hdistinct := (Dict.ofList (Json.normalFields fields)).pairwise_ne
    obtain ⟨r, hr, hfind⟩ := Source.record_obj names hdistinct
    rw [hdecode, Json.normal, Json.ofFields, Json.ofDict, hr]
    exact hbuild Json.normal r ReadsBack.normal fun k hk =>
      (hfind k hk).trans (Json.get?_normalFields h k)

theorem Source.asTexts_ofTexts (d : Dict String) : asTexts (Json.ofTexts d) = .ok d := by
  have hentries : (d.entries.map fun e => (Json.str e.1, Json.str e.2)).mapM (fun (key, value) => do
      return (← asText key, ← asText value)) = .ok d.entries :=
    mapM_ok_of_left_inverse fun e _ => rfl
  have hfields : asEntries (Json.ofTexts d) =
      .ok (d.entries.map fun e => (Json.str e.1, Json.str e.2)) := by
    simp [Json.ofTexts, Json.ofDict, Dict.map, asEntries, Function.comp_def]
  rw [asTexts, hfields]
  simp only [bind, Except.bind] at hentries ⊢
  rw [hentries]
  exact congrArg Except.ok d.ofList_entries

end TicketSync
