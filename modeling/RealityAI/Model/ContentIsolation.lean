import RealityAI.Library.Regex.Delimiter
import RealityAI.Model.QueryOutputs

/-!
# `safety/content_isolation.py` and the excerpts of `agents/query_agent.py`
-/

namespace RealityAI.Model.ContentIsolation
open Library.Regex Library.Regex.Re Python Schemas

def hexDigit : CharClass := [.range '0' '9', .range 'a' 'f', .range 'A' 'F']

def isHex (c : Char) : Bool :=
  ('0'.toNat ≤ c.toNat && c.toNat ≤ '9'.toNat) || ('a'.toNat ≤ c.toNat && c.toNat ≤ 'f'.toNat) ||
    ('A'.toNat ≤ c.toNat && c.toNat ≤ 'F'.toNat)

structure Nonce where
  text : String
  nonempty : text ≠ ""
  hex : ∀ c ∈ text.toList, isHex c = true

def nonceBytes : Nat := 8

def hexByte (b : UInt8) : List Char :=
  [Nat.digitChar (b.toNat / 16), Nat.digitChar (b.toNat % 16)]

def tokenHex (random : List UInt8) : String := String.ofList (random.flatMap hexByte)

theorem isHex_digitChar : ∀ d < 16, isHex (Nat.digitChar d) = true := by decide

theorem isHex_hexByte (b : UInt8) : ∀ c ∈ hexByte b, isHex c = true := by
  have := b.toNat_lt
  simp only [hexByte, List.mem_cons, List.not_mem_nil, or_false]
  rintro c (rfl | rfl) <;> exact isHex_digitChar _ (by omega)

/-- The argument is what the operating system returns as random bytes. -/
def newNonce (random : Fin nonceBytes → UInt8) : Nonce where
  text := tokenHex (List.ofFn random)
  nonempty := by
    intro empty
    have := congrArg String.toList empty
    simp only [tokenHex, String.toList_ofList, String.toList_empty, List.flatMap_eq_nil_iff] at this
    cases this _ (List.mem_ofFn.mpr ⟨⟨0, by decide⟩, rfl⟩)
  hex := by
    intro c mem
    simp only [tokenHex, String.toList_ofList, List.mem_flatMap] at mem
    obtain ⟨b, -, mem⟩ := mem
    exact isHex_hexByte b c mem

def openTag (nonce : String) : String := "[BEGIN-DATA:" ++ nonce ++ "]"

def closeTag (nonce : String) : String := "[END-DATA:" ++ nonce ++ "]"

theorem openTag_toList (nonce : String) :
    (openTag nonce).toList = "[BEGIN-DATA:".toList ++ nonce.toList ++ [']'] := by
  simp [openTag]

theorem closeTag_toList (nonce : String) :
    (closeTag nonce).toList = "[END-DATA:".toList ++ nonce.toList ++ [']'] := by
  simp [closeTag]

def replace (rt : Runtime) (text old new : String) (nonempty : old.toList ≠ []) : String :=
  String.ofList ((Pattern.literal old.toList nonempty).sub rt.tables new.toList text.toList)

def foreignMarker : Pattern where
  core := seqs [one '[', anyOf [str "BEGIN", str "END"], str "-DATA:", .rep hexDigit 1 none, one ']']
  bounded := false
  consumes := by decide

def stripForeignMarkers (rt : Runtime) (text : String) : String :=
  String.ofList (foreignMarker.sub rt.tables "[stripped-marker]".toList text.toList)

def safe (rt : Runtime) (content nonce : String) : String :=
  let content := replace rt content (openTag nonce) "[escaped-marker]" (by simp [openTag_toList])
  let content := replace rt content (closeTag nonce) "[escaped-marker]" (by simp [closeTag_toList])
  stripForeignMarkers rt content

def wrapUntrusted (rt : Runtime) (content nonce : String) : String :=
  openTag nonce ++ "\n" ++ safe rt content nonce ++ "\n" ++ closeTag nonce

def excerpt (chunk : SyllabusChunk) : String := "[" ++ chunk.courseId ++ "] " ++ chunk.content

def excerptHeader (n : Nat) : String := "Retrieved " ++ toString n ++ " syllabus excerpt(s):"

/-- `_format_typed_result` for a list of syllabus chunks. -/
def formatTypedResult (rt : Runtime) (random : Fin nonceBytes → UInt8) :
    List SyllabusChunk → String
  | [] => "No results found."
  | result@(_ :: _) =>
      let nonce := (newNonce random).text
      "\n".intercalate (excerptHeader result.length ::
        result.map fun chunk => wrapUntrusted rt (excerpt chunk) nonce)

end RealityAI.Model.ContentIsolation
