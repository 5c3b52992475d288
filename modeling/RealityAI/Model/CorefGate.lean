import RealityAI.Library.Regex.Substitution
import RealityAI.Model.Orchestrator
import RealityAI.Python.Builtins

/-!
# `preprocessing/coref_gate.py` and the prompt of `coref_resolver.py`
-/

namespace RealityAI.Model.CorefGate
open Library.Regex Library.Regex.Re Python Safety

/-- A pattern of the gate; an anchored one begins with `^`. -/
structure GatePattern where
  anchored : Bool
  pattern : Pattern

def word (core : Re) (consumes : 0 < core.minLength) : GatePattern :=
  ⟨false, { core, bounded := true, consumes }⟩

def anywhere (core : Re) (consumes : 0 < core.minLength) : GatePattern :=
  ⟨false, { core, bounded := false, consumes }⟩

def atStart (core : Re) (consumes : 0 < core.minLength) : GatePattern :=
  ⟨true, { core, bounded := false, consumes }⟩

def pronounPatterns : List GatePattern :=
  [word (str "it") (by decide), word (str "its") (by decide), word (str "that") (by decide),
   word (str "those") (by decide), word (str "these") (by decide), word (str "this") (by decide),
   word (str "they") (by decide), word (str "them") (by decide), word (str "their") (by decide),
   anywhere (str "它") (by decide), anywhere (str "那个") (by decide),
   anywhere (str "那门") (by decide), anywhere (str "这个") (by decide),
   anywhere (str "这门") (by decide), anywhere (str "那些") (by decide),
   anywhere (str "这些") (by decide)]

def ellipsisPatterns : List GatePattern :=
  [atStart (anyOf [str "再查", str "再看", str "那", str "然后", str "接着"]) (by decide),
   atStart (seqs [anyOf [str "check", str "look", str "find", str "show"], .rep [.space] 1 none,
     anyOf [str "again", str "more", str "those", str "that"]]) (by decide),
   atStart (seqs [anyOf [str "what about", str "how about"], .rep [.space] 1 none]) (by decide)]

def definiteReferencePatterns : List GatePattern :=
  [word (seqs [str "the ", anyOf [str "course", str "class", str "requirement", str "professor",
     str "instructor"]]) (by decide),
   anywhere (str "那门课") (by decide), anywhere (str "那个老师") (by decide),
   anywhere (seqs [str "那个", opt (one ' '), str "requirement"]) (by decide)]

/-- `re.search(pattern, text)` -/
def GatePattern.search (t : CharTables) (p : GatePattern) (text : List Char) : Bool :=
  if p.anchored then (p.pattern.first t none text).isSome else p.pattern.findAll t text != []

def needsCoref (b : Builtins) (userQuery : String) (sessionHistory : List Message) : Bool :=
  if sessionHistory.isEmpty then false
  else
    let queryLower := (b.lower userQuery).toList
    if (pronounPatterns ++ definiteReferencePatterns ++ ellipsisPatterns).any
        (·.search b.tables queryLower) then true
    else 2 ≤ sessionHistory.length ∧ (b.split userQuery).length ≤ 3

end RealityAI.Model.CorefGate
