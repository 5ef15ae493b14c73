import TicketSync.Proofs.FrameCodec

/-! # Frames on lines

The text of a value has no control characters, so a frame's text is one line and lines of frames are
told apart again. A frame reads back from its line as long as its values are nested at most 126 deep,
one less than the reader allows, since the frame is an object itself. -/
namespace TicketSync

/-! ### Texts without control characters -/

/-- A text without characters below U+0020. -/
def NoControl (cs : List Char) : Prop := ∀ c ∈ cs, 32 ≤ c.toNat

@[simp] theorem noControl_nil : NoControl [] := by simp [NoControl]

@[simp] theorem noControl_cons {c : Char} {cs : List Char} :
    NoControl (c :: cs) ↔ 32 ≤ c.toNat ∧ NoControl cs := by
  simp [NoControl]

@[simp] theorem noControl_append {cs ds : List Char} :
    NoControl (cs ++ ds) ↔ NoControl cs ∧ NoControl ds := by
  simp [NoControl, or_imp, forall_and]

@[simp] theorem noControl_decimal (n : Nat) : NoControl (Nat.toDigits 10 n) := by
  intro c hc
  have hdigit : (48 ≤ c.toNat) ∧ c.toNat ≤ 57 := by
    simpa [Char.isDigit, UInt32.le_iff_toNat_le] using isDigit_of_mem_decimal hc
  omega

@[simp] theorem noControl_replicate (n : Nat) : NoControl (List.replicate n '0') := by
  intro c hc
  rw [List.eq_of_mem_replicate hc]
  decide

theorem Binary64.Style.noControl_write (style : Style) (x : Decimal) : NoControl (style.write x) := by
  have hdigits := noControl_decimal x.digits
  have htake : ∀ n, NoControl ((Nat.toDigits 10 x.digits).take n) := fun n c hc =>
    hdigits c (List.mem_of_mem_take hc)
  have hdrop : ∀ n, NoControl ((Nat.toDigits 10 x.digits).drop n) := fun n c hc =>
    hdigits c (List.mem_of_mem_drop hc)
  have hsign : ∀ order : Int,
      NoControl (if order < 0 then ['-'] else if style.plusSign then ['+'] else []) := by
    intro order
    split
    · simp
    · split <;> simp
  simp only [write]
  split
  · split
    · simp
    · split
      · simp [htake, hdrop]
      · simp
  · -- A point follows the first digit if there are more of them.
    rcases hds : Nat.toDigits 10 x.digits with _ | ⟨d, _ | ⟨e, rest⟩⟩
    · simp [hsign]
    · have hd : 32 ≤ d.toNat := hdigits d (by simp [hds])
      simp [hsign, hd]
    · obtain ⟨hd, he, hrest⟩ : 32 ≤ d.toNat ∧ 32 ≤ e.toNat ∧ NoControl rest := by
        simpa [hds] using hdigits
      simp [hsign, hd, he, hrest]

theorem Binary64.noControl_toText (x : Binary64) : NoControl x.toText := by
  have hbody : NoControl (if x.isZero then ['0', '.', '0'] else plain.write x.shortest) := by
    split
    · simp
    · exact plain.noControl_write _
  simp only [toText]
  split
  · simp [hbody]
  · exact hbody

namespace Json

theorem noControl_hexDigits {n : Nat} (h : n < 32) : NoControl (Text.hexDigits n) := by
  have hdigit : ∀ d < 16, 32 ≤ d.digitChar.toNat := by decide
  rw [Text.hexDigits]
  by_cases hn : n < 16
  · simp [Nat.toDigits_of_lt_base hn, hdigit n hn]
  · have hfirst := hdigit (n / 16) (by omega)
    have hlast := hdigit (n % 16) (Nat.mod_lt n (by decide))
    rw [Nat.toDigits_of_base_le (by decide) (Nat.le_of_not_lt hn),
      Nat.toDigits_of_lt_base (by omega)]
    simp [hfirst, hlast]

theorem noControl_escape (c : Char) : NoControl (escape c) := by
  unfold escape
  split
  · simp
  split
  · simp
  split
  · simp
  split
  · simp
  split
  · simp
  split
  · simp
  split
  · simp
  split
  · next h => simp [noControl_hexDigits (show c.toNat < 32 by omega)]
  split
  · next h => simp [noControl_hexDigits h]
  · next h => simpa using h

theorem noControl_printString (s : String) : NoControl (printString s) := by
  have hchars : NoControl (s.toList.flatMap escape) := by
    intro c hc
    obtain ⟨d, -, hd⟩ := List.mem_flatMap.mp hc
    exact noControl_escape d c hd
  simp [printString, hchars]

mutual
/-- The text of a value has no control characters. -/
theorem noControl_print : ∀ v : Json, NoControl v.print
  | .null => by simp [print]
  | .bool true => by simp [print]
  | .bool false => by simp [print]
  | .int (.ofNat n) => by simp [print, printInt]
  | .int (.negSucc n) => by simp [print, printInt]
  | .real x => by simpa [print] using x.noControl_toText
  | .str s => by simpa [print] using noControl_printString s
  | .arr [] => by simp [print]
  | .arr (v :: rest) => by simp [print, noControl_print v, noControl_printItems rest]
  | .obj [] => by simp [print]
  | .obj ((k, v) :: rest) => by
    simp [print, noControl_printString, noControl_print v, noControl_printFields rest]

theorem noControl_printItems : ∀ l : List Json, NoControl (printItems l)
  | [] => by simp [printItems]
  | v :: rest => by simp [printItems, noControl_print v, noControl_printItems rest]

theorem noControl_printFields : ∀ l : List (String × Json), NoControl (printFields l)
  | [] => by simp [printFields]
  | (k, v) :: rest => by
    simp [printFields, noControl_printString, noControl_print v, noControl_printFields rest]
end

end Json

namespace Plugin

/-! ### Lines -/

/-- A text that is a line of its own: it is not empty, and no control character ends it. -/
def IsLine (cs : List Char) : Prop := cs ≠ [] ∧ NoControl cs

theorem IsLine.not_mem {cs : List Char} (h : IsLine cs) : '\n' ∉ cs := fun hmem =>
  absurd (h.2 _ hmem) (by decide)

theorem IsLine.dropReturn_eq {cs : List Char} (h : IsLine cs) : dropReturn cs = cs := by
  have hlast : cs.getLast? ≠ some '\r' := fun hr =>
    absurd (h.2 _ (List.mem_of_getLast? hr)) (by decide)
  rw [dropReturn, if_neg hlast]

theorem splitLinesFrom_append {line : List Char} (h : '\n' ∉ line) (held rest : List Char) :
    splitLinesFrom held (line ++ rest) = splitLinesFrom (held ++ line) rest := by
  induction line generalizing held with
  | nil => simp
  | cons c line ih =>
    have hc : c ≠ '\n' := fun hc => h (hc ▸ List.mem_cons_self)
    have hline : '\n' ∉ line := fun hmem => h (List.mem_cons_of_mem c hmem)
    rw [List.cons_append, splitLinesFrom, if_neg hc, ih hline, List.append_assoc]
    rfl

theorem IsLine.splitLines_append {line : List Char} (h : IsLine line) (rest : List Char) :
    splitLines (line ++ '\n' :: rest) = line :: splitLines rest := by
  rw [splitLines, splitLinesFrom_append h.not_mem, splitLinesFrom, if_pos rfl, List.nil_append,
    h.dropReturn_eq, splitLines]

theorem IsLine.splitLines_self {line : List Char} (h : IsLine line) : splitLines line = [line] := by
  have hsplit := splitLinesFrom_append h.not_mem [] []
  have hreturn : line ≠ ['\r'] := by
    rintro rfl
    exact absurd (h.2 '\r' List.mem_cons_self) (by decide)
  rw [List.append_nil, List.nil_append] at hsplit
  rw [splitLines, hsplit, splitLinesFrom, if_neg (by simp [h.1, hreturn]), h.dropReturn_eq]

/-- Lines with a line feed after each are received as they were sent. -/
theorem splitLines_joinLines {lines : List (List Char)} (h : ∀ l ∈ lines, IsLine l) :
    splitLines (joinLines lines) = lines := by
  induction lines with
  | nil => rfl
  | cons line lines ih =>
    have hline := h line List.mem_cons_self
    have hlines := ih fun l hl => h l (List.mem_cons_of_mem line hl)
    have hjoin : joinLines (line :: lines) = line ++ '\n' :: joinLines lines := by
      simp [joinLines]
    rw [hjoin, hline.splitLines_append, hlines]

/-- Lines with a line feed between them are received as they were sent. -/
theorem splitLines_intercalate {lines : List (List Char)} (h : ∀ l ∈ lines, IsLine l) :
    splitLines (List.intercalate ['\n'] lines) = lines := by
  induction lines with
  | nil => rfl
  | cons line lines ih =>
    have hline := h line List.mem_cons_self
    have hlines := ih fun l hl => h l (List.mem_cons_of_mem line hl)
    cases lines with
    | nil => simpa [List.intercalate] using hline.splitLines_self
    | cons next lines =>
      have hjoin : List.intercalate ['\n'] (line :: next :: lines) =
          line ++ '\n' :: List.intercalate ['\n'] (next :: lines) := by
        simp [List.intercalate]
      rw [hjoin, hline.splitLines_append, hlines]

/-! ### Frames -/

/-- What is sent over a connection, from either side. -/
inductive Frame where
  | request (r : Request)
  | response (r : Response)

namespace Frame

/-- The line of a frame. -/
def line : Frame → List Char
  | request r => r.line
  | response r => r.line

/-- A value with at most `depth` brackets in one another, without doubles and in normal form, as it
is held by the sides of a connection. -/
structure Carried (depth : Nat) (v : Json) : Prop where
  fits : v.Fits depth
  normal : v.normal = v

/-- The values in a frame are nested at most so deep that the reader takes them. -/
def Readable : Frame → Prop
  | request r => r.id < twoTo 64 ∧ Carried innerDepth r.params
  | response r => r.id < twoTo 64 ∧ (∀ v ∈ r.result, Carried innerDepth v) ∧
      ∀ f ∈ r.fault, ∀ d ∈ f.data, Carried (innerDepth - 1) d

/-- The other side gets the same request, or a response with the same number and outcome. -/
def ReadsBack : Frame → Prop
  | request r => readLine? Request.ofJson? r.line = some r
  | response r => ∃ s, readLine? Response.ofJson? r.line = some s ∧ s.id = r.id ∧
      s.outcome = r.outcome

theorem isLine (f : Frame) : IsLine f.line := by
  cases f with
  | request r =>
    exact ⟨by simp [line, Request.line, Request.toJson, Json.print], Json.noControl_print _⟩
  | response r =>
    exact ⟨by simp [line, Response.line, Response.toJson, Json.print], Json.noControl_print _⟩

theorem Carried.normal_outcome {r : Response} (h : ∀ v ∈ r.result, Carried innerDepth v) :
    r.outcome.map Json.normal = r.outcome := by
  obtain ⟨id, result, fault⟩ := r
  cases fault with
  | some f => rfl
  | none =>
    cases result with
    | none => rfl
    | some v => exact congrArg Except.ok (h v rfl).normal

theorem Readable.readsBack {f : Frame} (h : f.Readable) : f.ReadsBack := by
  cases f with
  | request r =>
    obtain ⟨hid, hparams⟩ := h
    have hread := readLine?_request hid hparams.fits
    rwa [hparams.normal] at hread
  | response r =>
    obtain ⟨hid, hresult, hdata⟩ := h
    have hfault : ∀ f ∈ r.fault, f.toJson.Fits innerDepth := by
      rintro ⟨code, message, data⟩ hf
      cases data with
      | none => simp [Fault.toJson, innerDepth, Json.maxDepth, Json.Fits, Json.FieldsFit]
      | some d =>
        have hd := (hdata _ hf d rfl).fits
        have hdepth : innerDepth = innerDepth - 1 + 1 := rfl
        rw [hdepth]
        simp [Fault.toJson, Json.Fits, Json.FieldsFit, hd]
    obtain ⟨s, hread, hsame, houtcome⟩ := readLine?_response hid (fun v hv => (hresult v hv).fits)
      hfault fun f hf d hd => (hdata f hf d hd).normal
    exact ⟨s, hread, hsame, houtcome.trans (Carried.normal_outcome hresult)⟩

theorem readsBack_success {id : Nat} {v : Json} (hid : id < twoTo 64) (hv : Carried innerDepth v) :
    ∃ s, readLine? Response.ofJson? (Response.success id v).line = some s ∧ s.id = id ∧
      s.outcome = .ok v := by
  obtain ⟨s, hread, hsame, houtcome⟩ := readLine?_success hid hv.fits
  exact ⟨s, hread, hsame, hv.normal ▸ houtcome⟩

theorem readsBack_failure {id : Nat} (hid : id < twoTo 64) (f : Failure) :
    ∃ s, readLine? Response.ofJson? (Response.failure id f).line = some s ∧ s.id = id ∧
      s.outcome = .error (Fault.ofFailure f).toFailure := by
  rw [Fault.toFailure_ofFailure]
  exact readLine?_failure hid f

end Frame

/-- Frames are told apart on their lines, whatever is in them, whether a line feed ends each line or
stands between them. Frames that are not nested too deep are read back: a request as it is and a
response with its number and outcome, where a failure has become what its fault stands for. -/
theorem frames_survive_their_lines (frames : List Frame) :
    (∀ f ∈ frames, '\n' ∉ f.line) ∧
    splitLines (joinLines (frames.map Frame.line)) = frames.map Frame.line ∧
    splitLines (List.intercalate ['\n'] (frames.map Frame.line)) = frames.map Frame.line ∧
    (∀ f ∈ frames, f.Readable → f.ReadsBack) ∧
    (∀ id v, .response (.success id v) ∈ frames → id < twoTo 64 → Frame.Carried innerDepth v →
      ∃ s, readLine? Response.ofJson? (Response.success id v).line = some s ∧ s.id = id ∧
        s.outcome = .ok v) ∧
    (∀ id f, .response (.failure id f) ∈ frames → id < twoTo 64 →
      ∃ s, readLine? Response.ofJson? (Response.failure id f).line = some s ∧ s.id = id ∧
        s.outcome = .error (Fault.ofFailure f).toFailure) := by
  have hlines : ∀ l ∈ frames.map Frame.line, IsLine l := by
    intro l hl
    obtain ⟨f, -, rfl⟩ := List.mem_map.mp hl
    exact f.isLine
  exact ⟨fun f _ => f.isLine.not_mem, splitLines_joinLines hlines, splitLines_intercalate hlines,
    fun f _ h => h.readsBack, fun id v _ hid hv => Frame.readsBack_success hid hv,
    fun id f _ hid => Frame.readsBack_failure hid f⟩

/-- A request whose text has line feeds, the null that is left out when it is read, and a failure
that needs its data. -/
def mixedFrames : List Frame :=
  [.request ⟨1, "git\nhub.Call", .str "a\r\nb"⟩, .response (.success 1 .null),
    .response (.failure (twoTo 64 - 1) (.unsupportedMethod "github" "\n"))]

theorem mixedFrames_survive :
    splitLines (joinLines (mixedFrames.map Frame.line)) = mixedFrames.map Frame.line ∧
    ∀ f ∈ mixedFrames, f.Readable ∧ f.ReadsBack := by
  obtain ⟨-, hjoin, -, hreads, -, -⟩ := frames_survive_their_lines mixedFrames
  have hreadable : ∀ f ∈ mixedFrames, f.Readable := by
    intro f hf
    simp only [mixedFrames, List.mem_cons, List.not_mem_nil, or_false] at hf
    rcases hf with rfl | rfl | rfl
    · exact ⟨by decide, ⟨trivial, rfl⟩⟩
    · refine ⟨by decide, ?_, by rintro f ⟨⟩⟩
      rintro v ⟨⟩
      exact ⟨trivial, rfl⟩
    · refine ⟨by decide, by rintro v ⟨⟩, ?_⟩
      rintro f ⟨⟩ d hd
      have hnormal := Fault.normal_ofFailure _ d hd
      obtain rfl := Option.some.inj hd
      exact ⟨by simp [innerDepth, Json.maxDepth, Json.Fits, Json.FieldsFit], hnormal⟩
  exact ⟨hjoin, fun f hf => ⟨hreadable f hf, hreads f hf (hreadable f hf)⟩⟩

/-- Null inside as many arrays. -/
def nested : Nat → Json
  | 0 => .null
  | depth + 1 => .arr [nested depth]

theorem carried_nested (depth : Nat) : Frame.Carried depth (nested depth) := by
  induction depth with
  | zero => exact ⟨trivial, rfl⟩
  | succ depth ih =>
    exact ⟨⟨ih.fits, trivial⟩, by rw [nested, Json.normal, Json.normalItems, ih.normal]; rfl⟩

/-- The object of a frame counts too, so a value that could be read by itself is refused in it. -/
theorem deepest_value_is_refused_in_a_request :
    Frame.Carried Json.maxDepth (nested Json.maxDepth) ∧
    Json.readChars? (nested Json.maxDepth).print = some (nested Json.maxDepth) ∧
    readLine? Request.ofJson? (Request.mk 1 "m" (nested Json.maxDepth)).line = none := by
  refine ⟨carried_nested _, Json.readChars?_print (carried_nested _).fits, ?_⟩
  exact Option.isNone_iff_eq_none.mp (by decide +kernel)

end Plugin
end TicketSync
