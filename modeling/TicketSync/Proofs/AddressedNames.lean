import TicketSync.Proofs.RenderedVars
import TicketSync.Proofs.TokenSpelling
import TicketSync.Proofs.ValidConfig

/-! # What templates can address

A path in a template reaches whatever has names of letters, digits, underscores and minus signs in the
context. The slugs are such names, also those that begin with a digit, so the task id of every tracker
can be had, and the fields of an update can if their keys are such names. What is there is rendered as
it stands. -/
namespace TicketSync

open Template

/-! ### Paths in braces -/

namespace Template

variable {fs : Functions} {path : List String} {ctx v : Json}

/-- A path is scanned as one token, whatever names its places have. -/
theorem scan_path (hpath : ∀ s ∈ path, IsFieldName s) :
    scan (' ' :: (Token.field path).spell ++ [' ']) = .ok [.field path] := by
  have hends : EndsToken [' '] := by
    rintro c ⟨⟩
    rfl
  obtain ⟨c, cs, hspell, hc, hread⟩ := readToken_spell (t := .field path) hpath hends
  have hblank : Text.isBlank ' ' = true := by decide
  have hend : scanFrom cs.length [] = .ok [] := by cases cs.length <;> rfl
  rw [hspell]
  simp [scan, scanFrom, hblank, hc, hread, hend, bind, Except.bind, pure, Except.pure]

/-- The source of a path in braces, with blanks between them. -/
def pathSource (path : List String) : String := "\x7b\x7b ." ++ ".".intercalate path ++ " \x7d\x7d"

theorem parse?_pathSource (fs : Functions) (hpath : ∀ s ∈ path, IsFieldName s) :
    parse? fs (pathSource path) = .ok ⟨[.action [.term (.field path)]]⟩ := by
  have hsource : pathSource path = braced (" ." ++ ".".intercalate path ++ " ") := by
    simp [pathSource, braced, ← String.toList_inj]
  have hspell : (" ." ++ ".".intercalate path ++ " ").toList =
      ' ' :: (Token.field path).spell ++ [' '] := by
    simp [Token.spell]
  rw [hsource]
  refine parse?_braced ?_
  rw [hspell, Pipeline.read?, scan_path hpath]
  exact Pipeline.parse_flat (p := [.term (.field path)]) ⟨trivial, trivial⟩

theorem renders_path (hpath : ∀ s ∈ path, IsFieldName s) (hv : lookUp path ctx = .ok v) :
    Renders fs ctx (pathSource path) (render v) := by
  refine ⟨_, parse?_pathSource fs hpath, ?_⟩
  have heval : Pipeline.eval fs ctx [.term (.field path)] = .ok v := by
    simp [Pipeline.eval, evalStages, evalCommand, evalTerm, evalPiped, hv, bind, Except.bind]
  rw [renderIn_action, heval]
  rfl

/-! ### Values in the context -/

theorem lookUp_ofFields {name : String} {fields : List (String × Json)}
    (hfields : fields.Pairwise fun a b => a.1 ≠ b.1) (hv : Dict.find name fields = some v) :
    lookUp (name :: path) (.ofFields fields) = lookUp path v := by
  have hfind : Dict.find name (Dict.ofList fields).entries = some v :=
    (Dict.get?_ofList hfields name).trans hv
  simp [Json.ofFields, Json.ofDict, lookUp, hfind]

theorem lookUp_ofDict (name : String) (path : List String) (d : Dict Json) :
    lookUp (name :: path) (.ofDict d) =
      match d.get? name with
      | some v => lookUp path v
      | none => .ok .null := rfl

end Template

theorem Content.pairwise_contextFields (c : Content) (rest : List (String × Json))
    (hrest : rest.Pairwise fun a b => a.1 ≠ b.1)
    (hnew : ∀ e ∈ rest, e.1 ∉ ["Title", "Body", "Fields"]) :
    (c.contextFields ++ rest).Pairwise fun a b => a.1 ≠ b.1 := by
  simp only [List.mem_cons, List.not_mem_nil, or_false, not_or] at hnew
  refine List.pairwise_append.mpr ⟨by simp [contextFields], hrest, ?_⟩
  intro e he e' he'
  obtain ⟨htitle, hbody, hfields⟩ := hnew e' he'
  simp only [contextFields, List.mem_cons, List.not_mem_nil, or_false] at he
  rcases he with rfl | rfl | rfl
  · exact Ne.symm htitle
  · exact Ne.symm hbody
  · exact Ne.symm hfields

/-- The task id of a tracker is where its name leads to, and null where it has not participated. -/
theorem lookUp_taskId (u : Update) (t : Ticket) (tracker : String) :
    lookUp ["Ticket", "Variations", tracker, "ID"] (context u t) =
      .ok (((t.variations.get? tracker).map fun v => .str v.id).getD .null) := by
  have hvariation : ∀ v : Variation, lookUp ["ID"] v.context = .ok (.str v.id) := fun v =>
    lookUp_ofFields (v.content.pairwise_contextFields _ (by simp) (by simp))
      (by simp [Content.contextFields, Dict.find])
  rw [context, lookUp_ofFields (v := t.context) (by simp) (by simp [Dict.find]), Ticket.context,
    lookUp_ofFields (v := .ofDict (t.variations.map Variation.context)) (by simp)
      (by simp [Dict.find]),
    lookUp_ofDict, Dict.get?_map]
  cases t.variations.get? tracker with
  | none => rfl
  | some v => exact hvariation v

/-- A field of an update is where its key leads to, and null where there is none. -/
theorem lookUp_updateField (u : Update) (t : Ticket) (key : String) :
    lookUp ["Update", "Fields", key] (context u t) =
      .ok (((u.content.fields.get? key).map .str).getD .null) := by
  rw [context, lookUp_ofFields (v := u.context) (by simp) (by simp [Dict.find]), Update.context,
    lookUp_ofFields (v := .ofTexts u.content.fields)
      (u.content.pairwise_contextFields _ (by simp) (by simp))
      (by simp [Content.contextFields, Dict.find]),
    Json.ofTexts, lookUp_ofDict, Dict.get?_map]
  cases u.content.fields.get? key <;> rfl

/-! ### Names -/

/-- A slug is a name in a path, also when it begins with a digit or holds minus signs. -/
theorem isFieldName_of_isSlug {s : String} (h : isSlug s = true) : IsFieldName s := by
  have hstarts : slugStarts.all isFieldChar = true := by decide +kernel
  have hstart : ∀ c, isSlugStart c = true → isFieldChar c = true := fun c hc =>
    List.all_eq_true.mp hstarts c ((mem_slugStarts c).mpr hc)
  unfold isSlug at h
  split at h
  · cases h
  · next c rest hs =>
    rw [Bool.and_eq_true, List.all_eq_true] at h
    rw [IsFieldName, hs]
    refine ⟨List.cons_ne_nil c rest, List.forall_mem_cons.mpr ⟨hstart c h.1, fun d hd => ?_⟩⟩
    have hd := h.2 d hd
    simp only [Bool.or_eq_true, decide_eq_true_eq] at hd
    rcases hd with (hd | rfl) | rfl
    · exact hstart d hd
    · decide
    · decide

/-- A source that has this text, also as a variable, whose text is then left as it is. -/
structure Reaches (fs : Functions) (u : Update) (t : Ticket) (src text : String) : Prop where
  renders : Renders fs (context u t) src text
  evaluated : ∀ (vars w : Vars) (name : String), vars.evaluated = false →
    vars.get? name = some src → vars.evaluate fs u t = .ok w →
    w.get? name = some text ∧
      ∀ (fs' : Functions) (u' : Update) (t' : Ticket), w.evaluate fs' u' t' = .ok w

theorem reaches_of_renders {fs : Functions} {u : Update} {t : Ticket} {src text : String}
    (h : Renders fs (context u t) src text) : Reaches fs u t src text := by
  refine ⟨h, fun vars w name hmark hsrc hw => ?_⟩
  have hevaluated := Vars.evaluated_of_evaluate hw
  rw [Vars.evaluate_of_not_evaluated hmark] at hw
  obtain ⟨l, hl, rfl⟩ := ok_of_map hw
  obtain ⟨text', hvalue, htext'⟩ := (Vars.renderedTo_of_renderAll hl).texts name src hsrc
  rw [← renderSource_eq_ok_iff] at h htext'
  cases h.symm.trans htext'
  exact ⟨hvalue, fun fs' u' t' => Vars.evaluate_of_evaluated hevaluated⟩

/-- Every name that the check accepts for a tracker, and every key of letters, digits, underscores
and minus signs, can be addressed. In braces the path to a tracker's id is rendered as the task id of
that tracker, and the path to a field of the update as the value of the field, whatever stands in
it; both are empty where there is nothing. -/
theorem names_are_addressable (fs : Functions) (u : Update) (t : Ticket) :
    (∀ tracker, isSlug tracker = true →
      Reaches fs u t ("\x7b\x7b .Ticket.Variations." ++ tracker ++ ".ID \x7d\x7d")
        (t.taskId tracker)) ∧
    (∀ c : Config, c.faults = [] → ∀ tracker ∈ c.trackerNames,
      Reaches fs u t ("\x7b\x7b .Ticket.Variations." ++ tracker ++ ".ID \x7d\x7d")
        (t.taskId tracker)) ∧
    ∀ key, key ≠ "" → (∀ c ∈ key.toList, isFieldChar c = true) →
      Reaches fs u t ("\x7b\x7b .Update.Fields." ++ key ++ " \x7d\x7d")
        ((u.content.fields.get? key).getD "") := by
  have htracker : ∀ tracker, isSlug tracker = true →
      Reaches fs u t ("\x7b\x7b .Ticket.Variations." ++ tracker ++ ".ID \x7d\x7d")
        (t.taskId tracker) := by
    intro tracker hslug
    have hsource : "\x7b\x7b .Ticket.Variations." ++ tracker ++ ".ID \x7d\x7d" =
        pathSource ["Ticket", "Variations", tracker, "ID"] := by
      simp [pathSource, ← String.toList_inj]
    have htext : render (((t.variations.get? tracker).map fun v => .str v.id).getD .null) =
        t.taskId tracker := by
      rw [Ticket.taskId, Ticket.variation]
      cases t.variations.get? tracker <;> rfl
    have hpath : ∀ s ∈ ["Ticket", "Variations", tracker, "ID"], IsFieldName s := by
      simp only [List.forall_mem_cons, List.not_mem_nil, false_implies, implies_true, and_true]
      exact ⟨by decide +kernel, by decide +kernel, isFieldName_of_isSlug hslug, by decide +kernel⟩
    rw [hsource, ← htext]
    exact reaches_of_renders (renders_path hpath (lookUp_taskId u t tracker))
  refine ⟨htracker, fun c hc tracker hmem => ?_, fun key hkey hchars => ?_⟩
  · obtain ⟨entry, hentry, rfl⟩ := List.mem_map.mp hmem
    exact htracker _ ((Config.faults_eq_nil.mp hc).2.1.2 entry hentry).1
  · have hsource : "\x7b\x7b .Update.Fields." ++ key ++ " \x7d\x7d" =
        pathSource ["Update", "Fields", key] := by
      simp [pathSource, ← String.toList_inj]
    have htext : render (((u.content.fields.get? key).map .str).getD .null) =
        (u.content.fields.get? key).getD "" := by
      cases u.content.fields.get? key <;> rfl
    have hname : IsFieldName key := ⟨fun h => hkey (String.toList_eq_nil_iff.mp h), hchars⟩
    have hpath : ∀ s ∈ ["Update", "Fields", key], IsFieldName s := by
      simp only [List.forall_mem_cons, List.not_mem_nil, false_implies, implies_true, and_true]
      exact ⟨by decide +kernel, by decide +kernel, hname⟩
    rw [hsource, ← htext]
    exact reaches_of_renders (renders_path hpath (lookUp_updateField u t key))

/-- An update with a field whose text looks like a template. -/
def bracedUpdate : Update where
  content := { fields := .ofList [("é-1", "\x7b\x7b .Update.Title \x7d\x7d")] }

/-- A ticket that one of the two desks has. -/
def deskTicket : Ticket where
  variations := .ofList [("9-desk", { id := "-7" })]

theorem desks_and_field_addressed :
    isSlug "9-desk" = true ∧ Config.twoDesks.faults = [] ∧
      "back_office" ∈ Config.twoDesks.trackerNames ∧
      "é-1" ≠ "" ∧ (∀ c ∈ "é-1".toList, isFieldChar c = true) ∧
      Reaches .empty bracedUpdate deskTicket
        "\x7b\x7b .Ticket.Variations.9-desk.ID \x7d\x7d" "-7" ∧
      Reaches .empty bracedUpdate deskTicket
        "\x7b\x7b .Ticket.Variations.back_office.ID \x7d\x7d" "" ∧
      Reaches .empty bracedUpdate deskTicket
        "\x7b\x7b .Update.Fields.é-1 \x7d\x7d" "\x7b\x7b .Update.Title \x7d\x7d" := by
  have hslug : isSlug "9-desk" = true := by decide
  have hfaultless : Config.twoDesks.faults = [] := by decide +kernel
  have hmem : "back_office" ∈ Config.twoDesks.trackerNames := by decide
  have hkey : "é-1" ≠ "" := by decide
  have hchars : ∀ c ∈ "é-1".toList, isFieldChar c = true :=
    List.all_eq_true.mp (by decide +kernel)
  have hid : deskTicket.taskId "9-desk" = "-7" := by decide
  have hnone : deskTicket.taskId "back_office" = "" := by decide
  have hvalue : (bracedUpdate.content.fields.get? "é-1").getD "" =
      "\x7b\x7b .Update.Title \x7d\x7d" := by decide
  obtain ⟨hslugs, hconfig, hfields⟩ := names_are_addressable .empty bracedUpdate deskTicket
  refine ⟨hslug, hfaultless, hmem, hkey, hchars, ?_, ?_, ?_⟩
  · simpa [hid] using hslugs "9-desk" hslug
  · simpa [hnone] using hconfig Config.twoDesks hfaultless "back_office" hmem
  · simpa [hvalue] using hfields "é-1" hkey hchars

end TicketSync
