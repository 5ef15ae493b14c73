import TicketSync.Ticket.Record

/-! # Stored records read back

A map of records is written as an object with its entries, and an object in that form has one
reading. From this each record of a ticket reads back as it was written. -/
namespace TicketSync

theorem ok_of_bind {ε α β : Type} {x : Except ε α} {f : α → Except ε β} {b : β}
    (h : x >>= f = .ok b) : ∃ a, x = .ok a ∧ f a = .ok b := by
  cases x with
  | error fault => cases h
  | ok a => exact ⟨a, rfl, h⟩

theorem error_of_bind {ε α β : Type} {x : Except ε α} {f : α → Except ε β} {e : ε}
    (h : x >>= f = .error e) : x = .error e ∨ ∃ a, x = .ok a ∧ f a = .error e := by
  cases x with
  | error fault =>
    cases h
    exact .inl rfl
  | ok a => exact .inr ⟨a, rfl, h⟩

theorem ok_of_map {ε α β : Type} {x : Except ε α} {f : α → β} {b : β} (h : x.map f = .ok b) :
    ∃ a, x = .ok a ∧ f a = b := by
  cases x with
  | error fault => cases h
  | ok a => exact ⟨a, rfl, Except.ok.inj h⟩

theorem mapM_map_ok {α β γ ε : Type} {read : β → Except ε γ} {write : α → β} {f : α → γ}
    {l : List α} (h : ∀ x ∈ l, read (write x) = .ok (f x)) :
    (l.map write).mapM read = .ok (l.map f) := by
  induction l with
  | nil => rfl
  | cons x l ih =>
    have hx : read (write x) = .ok (f x) := h x List.mem_cons_self
    have hl : (l.map write).mapM read = .ok (l.map f) :=
      ih fun y hy => h y (List.mem_cons_of_mem _ hy)
    rw [List.map_cons, List.mapM_cons, hx, hl]
    rfl

theorem mapM_ok_of_left_inverse {α β ε : Type} {read : β → Except ε α} {write : α → β} {l : List α}
    (h : ∀ x ∈ l, read (write x) = .ok x) : (l.map write).mapM read = .ok l := by
  have hmap : (l.map write).mapM read = .ok (l.map id) := mapM_map_ok h
  rw [hmap, List.map_id]

theorem map_eq_of_mapM_eq_ok {α β ε : Type} {read : β → Except ε α} {vs : List β} {xs : List α}
    (h : vs.mapM read = .ok xs) : vs.map read = xs.map .ok := by
  induction vs generalizing xs with
  | nil =>
    cases h
    rfl
  | cons v vs ih =>
    rw [List.mapM_cons] at h
    cases hv : read v with
    | error f => simp [hv, bind, Except.bind] at h
    | ok y =>
      cases hvs : vs.mapM read with
      | error f => simp [hv, hvs, bind, Except.bind] at h
      | ok ys =>
        simp only [hv, hvs, bind, Except.bind, pure, Except.pure, Except.ok.injEq] at h
        subst h
        simp [hv, ih hvs]

namespace Dict

variable {α β : Type}

theorem get?_foldl_insert (l : List (String × α)) (d : Dict α) (k : String)
    (hl : l.Pairwise fun a b => a.1 ≠ b.1) :
    (l.foldl (fun d e => d.insert e.1 e.2) d).get? k = (find k l).or (d.get? k) := by
  induction l generalizing d with
  | nil => rfl
  | cons e l ih =>
    obtain ⟨hfirst, hrest⟩ := List.pairwise_cons.mp hl
    rw [List.foldl_cons, ih _ hrest, get?_insert]
    by_cases hk : e.1 = k
    · have hnone : find k l = none := by
        cases hf : find k l with
        | none => rfl
        | some v => exact absurd hk (hfirst _ (mem_of_find_eq_some hf))
      simp [find, hk, hnone]
    · simp [find, hk]

theorem get?_ofList {l : List (String × α)} (hl : l.Pairwise fun a b => a.1 ≠ b.1) (k : String) :
    (ofList l).get? k = find k l := by
  rw [ofList, get?_foldl_insert _ _ _ hl, get?_empty, Option.or_none]

theorem contains_foldl_insert (l : List (String × α)) (d : Dict α) (k : String) :
    (l.foldl (fun d e => d.insert e.1 e.2) d).contains k = true ↔
      k ∈ l.map (·.1) ∨ d.contains k = true := by
  induction l generalizing d with
  | nil => simp
  | cons e l ih =>
    rw [List.foldl_cons, ih, contains_insert, List.map_cons, List.mem_cons, eq_comm, or_left_comm,
      or_assoc]

theorem contains_ofList (l : List (String × α)) (k : String) :
    (ofList l).contains k = true ↔ k ∈ l.map (·.1) := by
  rw [ofList, contains_foldl_insert, contains, get?_empty]
  simp

theorem pairwise_ne (d : Dict α) : d.entries.Pairwise fun a b => a.1 ≠ b.1 := by
  refine d.ascending.imp ?_
  intro a b hlt heq
  rw [heq] at hlt
  exact String.lt_irrefl _ hlt

@[simp] theorem ofList_entries (d : Dict α) : ofList d.entries = d := by
  apply ext_get?
  intro k
  rw [get?_ofList d.pairwise_ne]
  rfl

end Dict

namespace Json

theorem asDict_ofDict {α : Type} {read : Json → Decoded α} {write : α → Json}
    (h : ∀ x, read (write x) = .ok x) (d : Dict α) :
    asDict read (.ofDict (d.map write)) = .ok d := by
  have hentries : (d.entries.map fun e => (e.1, write e.2)).mapM (asEntry read) = .ok d.entries := by
    apply mapM_ok_of_left_inverse
    intro e _
    simp [asEntry, h, Except.map]
  simp only [ofDict, Dict.map, asDict, hentries]
  exact congrArg Except.ok d.ofList_entries

theorem asDict_ofTexts (d : Dict String) : asDict asText (.ofTexts d) = .ok d :=
  @asDict_ofDict _ asText .str (fun _ => rfl) d

end Json

theorem Dict.eq_empty_of_isEmpty {α : Type} {d : Dict α} (h : d.isEmpty = true) : d = .empty := by
  apply Dict.ext
  exact List.isEmpty_iff.mp h

theorem Content.ofRecord_jsonFields (c : Content) : Content.ofRecord c.jsonFields = .ok c := by
  cases hc : c.fields.isEmpty with
  | true =>
    have hfields : Dict.empty = c.fields := (Dict.eq_empty_of_isEmpty hc).symm
    simp [ofRecord, jsonFields, hc, Json.optional, Dict.find, Json.asText, bind, Except.bind,
      pure, Except.pure, hfields]
  | false =>
    simp [ofRecord, jsonFields, hc, Json.optional, Dict.find, Json.asText, Json.asDict_ofTexts,
      bind, Except.bind, pure, Except.pure]

@[simp] theorem Content.ofJson?_toJson (c : Content) : Content.ofJson? c.toJson = .ok c := by
  have hrecord : c.toJson.record Content.fieldNames = .ok c.jsonFields := by
    cases hc : c.fields.isEmpty <;>
      simp [toJson, jsonFields, hc, Json.record, Json.repeats, fieldNames]
  rw [Content.ofJson?, hrecord]
  exact c.ofRecord_jsonFields

@[simp] theorem Variation.ofJson?_toJson (v : Variation) : Variation.ofJson? v.toJson = .ok v := by
  simp [ofJson?, toJson, Json.record, Json.repeats, Json.required, Json.optional, Dict.find,
    Json.asText, bind, Except.bind, pure, Except.pure]

@[simp] theorem Ticket.ofJson?_toJson (t : Ticket) : Ticket.ofJson? t.toJson = .ok t := by
  have hvariations := Json.asDict_ofDict Variation.ofJson?_toJson t.variations
  simp [ofJson?, toJson, Json.record, Json.repeats, Json.optional, Dict.find, Json.asText,
    hvariations, bind, Except.bind, pure, Except.pure]

end TicketSync
