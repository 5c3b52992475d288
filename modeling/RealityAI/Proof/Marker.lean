import RealityAI.Model.ContentIsolation

namespace RealityAI.Proof.Marker
open Library.Regex Library.Regex.Re Library.Regex.Pattern Python Model.ContentIsolation

def IsMarker (w : List Char) : Prop :=
  ∃ kind ∈ ["BEGIN", "END"], ∃ digits : List Char, digits ≠ [] ∧ (∀ d ∈ digits, isHex d = true) ∧
    w = ("[" ++ kind ++ "-DATA:").toList ++ digits ++ [']']

theorem hexDigit_mem (t : CharTables) (c : Char) : hexDigit.mem t c = isHex c := by
  simp only [hexDigit, CharClass.mem, List.any_cons, List.any_nil, ClassItem.mem, Bool.or_false,
    isHex, Bool.or_assoc]

theorem lang_foreignMarker (t : CharTables) (w : List Char) :
    foreignMarker.core.Lang t w ↔ IsMarker w := by
  simp only [foreignMarker, seqs, anyOf, str, Lang, lang_lit, lang_one, hexDigit_mem, IsMarker]
  constructor
  · rintro ⟨_, _, rfl, ⟨kind, _, hkind, ⟨_, _, rfl, ⟨digits, _, ⟨hex, some, -⟩, rfl, rfl⟩, rfl⟩, rfl⟩, rfl⟩
    have nonempty : digits ≠ [] := List.length_pos_iff.mp some
    rcases hkind with rfl | rfl
    · exact ⟨"BEGIN", by simp, digits, nonempty, hex, by simp⟩
    · exact ⟨"END", by simp, digits, nonempty, hex, by simp⟩
  · rintro ⟨kind, hkind, digits, nonempty, hex, rfl⟩
    refine ⟨_, _, rfl, ⟨kind.toList, _, ?_, ⟨_, _, rfl, ⟨digits, _, ⟨hex, ?_, by simp⟩, rfl, rfl⟩, rfl⟩, rfl⟩,
      by simp⟩
    · simp only [List.mem_cons, List.not_mem_nil, or_false] at hkind
      exact hkind.imp (congrArg _) (congrArg _)
    · exact List.length_pos_iff.mpr nonempty

theorem isHex_ne {c d : Char} (hex : isHex c = true) (other : isHex d = false) : c ≠ d := by
  intro same
  subst same
  simp [hex] at other

theorem not_mem_digits {digits : List Char} (hex : ∀ d ∈ digits, isHex d = true) {c : Char}
    (other : isHex c = false) : c ∉ digits :=
  fun mem => isHex_ne (hex c mem) other rfl

theorem bracketed (t : CharTables) : foreignMarker.Bracketed t '[' ']' where
  free := rfl
  opens := by
    intro w lang
    obtain ⟨kind, hkind, digits, -, hex, rfl⟩ := (lang_foreignMarker t w).mp lang
    have := not_mem_digits hex (c := '[') (by decide)
    refine ⟨(kind ++ "-DATA:").toList ++ digits ++ [']'], by simp, ?_⟩
    simp only [List.mem_cons, List.not_mem_nil, or_false] at hkind
    rcases hkind with rfl | rfl <;> simpa using this
  closes := by
    intro w lang
    obtain ⟨kind, hkind, digits, -, hex, rfl⟩ := (lang_foreignMarker t w).mp lang
    have := not_mem_digits hex (c := ']') (by decide)
    refine ⟨_, rfl, ?_⟩
    simp only [List.mem_cons, List.not_mem_nil, or_false] at hkind
    rcases hkind with rfl | rfl <;> simpa using this

theorem second (t : CharTables) {c : Char} (begins : c ≠ 'B') (ends : c ≠ 'E') (w : List Char)
    (lang : foreignMarker.core.Lang t w) : ∃ d v, w = '[' :: d :: v ∧ d ≠ c := by
  obtain ⟨kind, hkind, digits, -, -, rfl⟩ := (lang_foreignMarker t w).mp lang
  simp only [List.mem_cons, List.not_mem_nil, or_false] at hkind
  rcases hkind with rfl | rfl
  · exact ⟨'B', "EGIN-DATA:".toList ++ digits ++ [']'], by simp, begins.symm⟩
  · exact ⟨'E', "ND-DATA:".toList ++ digits ++ [']'], by simp, ends.symm⟩

theorem apartFrom (t : CharTables) {c : Char} {rest : List Char} (once : '[' ∉ c :: rest)
    (begins : c ≠ 'B') (ends : c ≠ 'E') : foreignMarker.ApartFrom t ('[' :: c :: rest) :=
  (bracketed t).apartFrom t once (second t begins ends)

theorem newline_avoided (t : CharTables) : foreignMarker.core.avoids t '\n' = true := rfl

theorem clean_iff (t : CharTables) (s : List Char) :
    foreignMarker.Clean t s ↔ ∀ w, IsMarker w → ¬ w <:+: s := by
  simp only [clean_iff_of_free t (bracketed t).free, lang_foreignMarker]

end RealityAI.Proof.Marker
