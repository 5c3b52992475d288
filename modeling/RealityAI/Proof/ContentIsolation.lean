import RealityAI.Proof.Marker

namespace RealityAI.Proof.ContentIsolation
open Library.Regex Library.Regex.Pattern Python Model.Schemas Model.ContentIsolation Marker

section
variable (rt : Runtime)

theorem openTag_marker (nonce : Nonce) : IsMarker (openTag nonce.text).toList :=
  ⟨"BEGIN", by simp, nonce.text.toList, by simpa using nonce.nonempty, nonce.hex,
    by simp [openTag_toList]⟩

theorem closeTag_marker (nonce : Nonce) : IsMarker (closeTag nonce.text).toList :=
  ⟨"END", by simp, nonce.text.toList, by simpa using nonce.nonempty, nonce.hex,
    by simp [closeTag_toList]⟩

theorem openTag_ne_closeTag (nonce : String) : (openTag nonce).toList ≠ (closeTag nonce).toList := by
  simp [openTag_toList, closeTag_toList]

theorem stripForeignMarkers_clean (text : String) :
    foreignMarker.Clean rt.tables (stripForeignMarkers rt text).toList := by
  rw [stripForeignMarkers, String.toList_ofList]
  have starts : "[stripped-marker]".toList.head? = some '[' := rfl
  exact clean_sub_self rt.tables starts
    (apartFrom rt.tables (by decide) (by decide) (by decide)) text.toList

theorem stripForeignMarkers_eq_self {text : String}
    (clean : foreignMarker.Clean rt.tables text.toList) : stripForeignMarkers rt text = text := by
  rw [stripForeignMarkers, sub_eq_self rt.tables (findAll_eq_nil rt.tables clean),
    String.ofList_toList]

theorem replace_eq_self {text old new : String} (nonempty : old.toList ≠ [])
    (marker : IsMarker old.toList) (clean : foreignMarker.Clean rt.tables text.toList) :
    replace rt text old new nonempty = text := by
  have absent : (Pattern.literal old.toList nonempty).Clean rt.tables text.toList := by
    rw [clean_iff_of_free rt.tables rfl]
    intro w lang
    rw [(Re.lang_lit rt.tables old.toList w).mp lang]
    exact (clean_iff rt.tables text.toList).mp clean _ marker
  rw [replace, sub_eq_self rt.tables (findAll_eq_nil rt.tables absent), String.ofList_toList]

theorem safe_clean (content nonce : String) :
    foreignMarker.Clean rt.tables (safe rt content nonce).toList :=
  stripForeignMarkers_clean rt _

theorem safe_eq_self (nonce : Nonce) {content : String}
    (clean : foreignMarker.Clean rt.tables content.toList) : safe rt content nonce.text = content := by
  rw [safe]
  simp only [replace_eq_self rt _ (openTag_marker nonce) clean,
    replace_eq_self rt _ (closeTag_marker nonce) clean, stripForeignMarkers_eq_self rt clean]

theorem clean_of_no_bracket {s : List Char} (away : '[' ∉ s) : foreignMarker.Clean rt.tables s :=
  clean_of_not_mem rt.tables (bracketed rt.tables) away

def framed (body : List Char) : List Char := '\n' :: (body ++ ['\n'])

theorem framed_clean {body : List Char} (clean : foreignMarker.Clean rt.tables body) :
    foreignMarker.Clean rt.tables (framed body) := by
  have empty : foreignMarker.Clean rt.tables [] := clean_of_no_bracket rt (by simp)
  have cut {u v : List Char} := clean_append_cons rt.tables rfl (newline_avoided rt.tables)
    (u := u) (v := v)
  exact cut empty (cut clean empty)

def wrapParts (nonce : String) (lead body : List Char) : List (List Char × List Char) :=
  [(lead, (openTag nonce).toList), (framed body, (closeTag nonce).toList)]

theorem wrapUntrusted_toList (content nonce : String) :
    (wrapUntrusted rt content nonce).toList =
      assemble (wrapParts nonce [] (safe rt content nonce).toList) [] := by
  simp [wrapUntrusted, assemble, wrapParts, framed]

theorem wrapParts_separated (nonce : Nonce) {lead body : List Char}
    (leadClean : foreignMarker.Clean rt.tables lead) (bodyClean : foreignMarker.Clean rt.tables body) :
    foreignMarker.Separated rt.tables (wrapParts nonce.text lead body) [] where
  gap := by
    simpa [wrapParts] using ⟨leadClean, framed_clean rt bodyClean⟩
  word := by
    simpa [wrapParts, lang_foreignMarker] using ⟨openTag_marker nonce, closeTag_marker nonce⟩
  last := clean_of_no_bracket rt (by simp)

/-- What wrapping promises about its result and the text between the tags. -/
structure Boundary (nonce : Nonce) (content body : String) : Prop where
  text : wrapUntrusted rt content nonce.text =
    openTag nonce.text ++ "\n" ++ body ++ "\n" ++ closeTag nonce.text
  unforged : ∀ w, IsMarker w → ¬ w <:+: body.toList
  opensOnce : OccursOnce (openTag nonce.text).toList (wrapUntrusted rt content nonce.text).toList
  closesOnce : OccursOnce (closeTag nonce.text).toList (wrapUntrusted rt content nonce.text).toList
  unchanged : (∀ w, IsMarker w → ¬ w <:+: content.toList) → body = content

theorem wrapUntrusted_boundary (nonce : Nonce) (content : String) :
    Boundary rt nonce content (safe rt content nonce.text) := by
  have separated := wrapParts_separated rt nonce (clean_of_no_bracket rt (s := []) (by simp))
    (safe_clean rt content nonce.text)
  have differ := openTag_ne_closeTag nonce.text
  refine ⟨rfl, (clean_iff rt.tables _).mp (safe_clean rt content nonce.text), ?_, ?_, ?_⟩
  · rw [wrapUntrusted_toList]
    apply (bracketed rt.tables).occursOnce rt.tables separated (List.nil_append _).symm
    · simp
    · simpa using differ.symm
  · rw [wrapUntrusted_toList]
    apply (bracketed rt.tables).occursOnce rt.tables separated List.singleton_append.symm
    · simpa using differ
    · simp
  · exact fun absent => safe_eq_self rt nonce ((clean_iff rt.tables _).mpr absent)

theorem toList_lines (header : String) (lines : List String) :
    ("\n".intercalate (header :: lines)).toList =
      header.toList ++ lines.flatMap fun line => '\n' :: line.toList := by
  induction lines generalizing header with
  | nil => simp
  | cons line lines ih =>
      rw [String.intercalate_cons_cons, String.toList_append, String.toList_append, ih]
      simp

def resultParts (nonce : String) : List Char → List (List Char) → List (List Char × List Char)
  | _, [] => []
  | lead, body :: bodies =>
      wrapParts nonce (lead ++ ['\n']) body ++ resultParts nonce [] bodies

theorem assemble_wrapParts (nonce : String) (lead body : List Char) :
    assemble (wrapParts nonce lead body) [] = lead ++ assemble (wrapParts nonce [] body) [] := by
  simp [assemble, wrapParts]

theorem assemble_resultParts (nonce : String) (bodies : List (List Char)) :
    assemble (resultParts nonce [] bodies) [] =
      bodies.flatMap fun body => '\n' :: assemble (wrapParts nonce [] body) [] := by
  induction bodies with
  | nil => rfl
  | cons body bodies ih =>
      rw [resultParts, assemble_append, ih, assemble_wrapParts]
      rfl

theorem resultParts_separated (nonce : Nonce) {lead : List Char} {bodies : List (List Char)}
    (leadClean : '[' ∉ lead) (bodiesClean : ∀ body ∈ bodies, foreignMarker.Clean rt.tables body) :
    foreignMarker.Separated rt.tables (resultParts nonce.text lead bodies) [] := by
  induction bodies generalizing lead with
  | nil => exact ⟨by simp [resultParts], by simp [resultParts], clean_of_no_bracket rt (by simp)⟩
  | cons body bodies ih =>
      have leadLine : '[' ∉ lead ++ ['\n'] := by simpa using leadClean
      have here := wrapParts_separated rt nonce (clean_of_no_bracket rt leadLine)
        (bodiesClean body (by simp))
      have later := ih List.not_mem_nil (fun b hb => bodiesClean b (by simp [hb]))
      exact ⟨List.forall_mem_append.mpr ⟨here.gap, later.gap⟩,
        List.forall_mem_append.mpr ⟨here.word, later.word⟩, later.last⟩

theorem resultParts_words (nonce : String) (lead : List Char) (bodies : List (List Char)) :
    (resultParts nonce lead bodies).map Prod.snd =
      bodies.flatMap fun _ => [(openTag nonce).toList, (closeTag nonce).toList] := by
  induction bodies generalizing lead with
  | nil => rfl
  | cons body bodies ih => simp [resultParts, wrapParts, ih]

def enclosed : List (List Char) → List (List Char)
  | _ :: inner :: rest => inner.tail.dropLast :: enclosed rest
  | _ => []

theorem enclosed_resultParts (nonce : String) (lead last : List Char) (bodies : List (List Char)) :
    enclosed ((resultParts nonce lead bodies).map Prod.fst ++ [last]) = bodies := by
  induction bodies generalizing lead with
  | nil => rfl
  | cons body bodies ih => simp [resultParts, wrapParts, enclosed, framed, ih]

theorem excerptHeader_no_bracket (n : Nat) : '[' ∉ (excerptHeader n).toList := by
  have digits : '[' ∉ Nat.toDigits 10 n := by
    intro mem
    have := Nat.isDigit_of_mem_toDigits (b := 10) (by decide) (by decide) mem
    simp at this
  simpa [excerptHeader, Nat.toString_eq_ofList_toDigits] using digits

def sanitised (nonce : String) (chunks : List SyllabusChunk) : List (List Char) :=
  chunks.map fun chunk => (safe rt (excerpt chunk) nonce).toList

theorem formatTypedResult_toList (random : Fin nonceBytes → UInt8) (first : SyllabusChunk)
    (rest : List SyllabusChunk) :
    (formatTypedResult rt random (first :: rest)).toList =
      assemble (resultParts (newNonce random).text (excerptHeader (rest.length + 1)).toList
        (sanitised rt (newNonce random).text (first :: rest))) [] := by
  simp only [formatTypedResult, toList_lines, sanitised, List.map_cons, resultParts,
    assemble_append, assemble_resultParts, assemble_wrapParts _ (_ ++ _), List.flatMap_cons,
    List.flatMap_map, wrapUntrusted_toList, List.length_cons]
  simp

/-- What the formatted result promises: a pair of tags for each chunk, all with one nonce, and the
sanitised chunks between them. -/
structure Marked (random : Fin nonceBytes → UInt8) (chunks : List SyllabusChunk)
    (out : List Char) : Prop where
  alternate : foreignMarker.findAll rt.tables out = chunks.flatMap fun _ =>
    [(openTag (newNonce random).text).toList, (closeTag (newNonce random).text).toList]
  only : ∀ pre w post, IsMarker w → out = pre ++ w ++ post →
    w = (openTag (newNonce random).text).toList ∨ w = (closeTag (newNonce random).text).toList
  recovered : enclosed (foreignMarker.split rt.tables out) =
    sanitised rt (newNonce random).text chunks

theorem formatTypedResult_marked (random : Fin nonceBytes → UInt8) (first : SyllabusChunk)
    (rest : List SyllabusChunk) :
    Marked rt random (first :: rest) (formatTypedResult rt random (first :: rest)).toList := by
  have bodiesClean : ∀ body ∈ sanitised rt (newNonce random).text (first :: rest),
      foreignMarker.Clean rt.tables body := by simp [sanitised, safe_clean]
  have separated := resultParts_separated rt (newNonce random)
    (excerptHeader_no_bracket (rest.length + 1)) bodiesClean
  rw [formatTypedResult_toList]
  refine ⟨?_, ?_, ?_⟩
  · rw [(bracketed rt.tables).findAll_assemble rt.tables separated, resultParts_words, sanitised,
      List.flatMap_map]
  · intro pre w post marker text
    obtain ⟨before, gap, after, parts, -, -⟩ := (bracketed rt.tables).occurrence_assemble rt.tables
      separated ((lang_foreignMarker rt.tables w).mpr marker) text
    have mem : w ∈ (resultParts (newNonce random).text (excerptHeader (rest.length + 1)).toList
        (sanitised rt (newNonce random).text (first :: rest))).map Prod.snd := by
      simp [parts]
    rw [resultParts_words] at mem
    obtain ⟨-, -, mem⟩ := List.mem_flatMap.mp mem
    simpa using mem
  · rw [(bracketed rt.tables).split_assemble rt.tables separated, enclosed_resultParts]

/-- Untrusted content neither forges nor breaks its boundary, in one wrapped text and in a whole
result. -/
theorem untrusted_content_isolated :
    (∀ (nonce : Nonce) (content : String),
      Boundary rt nonce content (safe rt content nonce.text)) ∧
    ∀ (random : Fin nonceBytes → UInt8) (first : SyllabusChunk) (rest : List SyllabusChunk),
      Marked rt random (first :: rest) (formatTypedResult rt random (first :: rest)).toList :=
  ⟨wrapUntrusted_boundary rt, formatTypedResult_marked rt⟩

end

end RealityAI.Proof.ContentIsolation
