import RealityAI.Library.Effect
import RealityAI.Model.State
import RealityAI.Python.Builtins

/-!
# Step outputs as Python objects

The built-in operations that the handlers of a plan apply to parameters of unknown type, and the
placeholders `<from_step_N>`.
-/

namespace RealityAI.Model.State
open Library Python Schemas

/-- What is shown of objects: `str` of a pydantic model or a list of them, and the name of the class
of an exception. -/
structure ObjectTexts where
  str : StepValue → String
  excName : PyExc → String

/-- What iterating over a value yields: a JSON value, or an object of which the names of its class
and of the part that has no hash are known. -/
inductive Element where
  | json (v : Json)
  | object (cls : String) (unhashable : Option String)

namespace StepValue

def truthy : StepValue → Bool
  | .sections cs => !cs.isEmpty
  | .unsatisfied rs => !rs.isEmpty
  | .chunks cs => !cs.isEmpty
  | .options os => !os.isEmpty
  | .json v => v.truthy
  | _ => true

def or (a b : StepValue) : StepValue := if a.truthy then a else b

def isStr (s : String) : StepValue → Bool
  | .json v => v.isStr s
  | _ => false

def isList : StepValue → Bool
  | .sections _ | .unsatisfied _ | .chunks _ | .options _ | .json (.arr _) => true
  | _ => false

end StepValue

namespace ObjectTexts
variable (t : ObjectTexts)

def typeName : StepValue → String
  | .transcript _ => "StudentTranscript"
  | .program _ => "DegreeProgram"
  | .json v => v.typeName
  | .exc e => t.excName e
  | _ => "list"

def text (rt : Runtime) : StepValue → String
  | .json v => rt.str v
  | .exc e => e.text
  | v => t.str v

def noAttribute (typeName method : String) : PyExc :=
  ⟨.attributeError, "'" ++ typeName ++ "' object has no attribute '" ++ method ++ "'"⟩

def asText (method : String) : StepValue → Except PyExc String
  | .json (.str s) => .ok s
  | v => .error (noAttribute (t.typeName v) method)

def unhashable (typeName : String) : PyExc :=
  ⟨.typeError, "unhashable type: '" ++ typeName ++ "'"⟩

def hash : StepValue → Except PyExc Unit
  | .json v => if v.hashable then .ok () else .error v.unhashable
  | .exc _ => .ok ()
  | v => .error (unhashable (t.typeName v))

def noIter (v : StepValue) : PyExc :=
  ⟨.typeError, "'" ++ t.typeName v ++ "' object is not iterable"⟩

def models {α : Type} (cls : String) (xs : List α) : List Element :=
  xs.map fun _ => .object cls (some cls)

def elements : StepValue → Except PyExc (List Element)
  | .json (.str s) => .ok (s.toList.map fun c => .json (.str (String.singleton c)))
  | .json (.arr items) => .ok (items.map .json)
  | .json (.obj fields) => .ok ((Dict.keys fields).map fun key => .json (.str key))
  | .transcript _ => .ok [.object "tuple" none, .object "tuple" (some "list")]
  | .program _ => .ok [.object "tuple" none, .object "tuple" none, .object "tuple" none,
      .object "tuple" (some "RequirementNode")]
  | .sections cs => .ok (models "CourseSection" cs)
  | .unsatisfied rs => .ok (models "UnsatisfiedRequirement" rs)
  | .chunks cs => .ok (models "SyllabusChunk" cs)
  | .options os => .ok (models "ScheduleOption" os)
  | v => .error (t.noIter v)

end ObjectTexts

namespace Element

def hash : Element → Except PyExc Unit
  | .json v => if v.hashable then .ok () else .error v.unhashable
  | .object _ none => .ok ()
  | .object _ (some part) => .error (ObjectTexts.unhashable part)

def string? : Element → Option String
  | .json (.str s) => some s
  | _ => none

def asText (method : String) : Element → Except PyExc String
  | .json (.str s) => .ok s
  | .json v => .error (ObjectTexts.noAttribute v.typeName method)
  | .object cls _ => .error (ObjectTexts.noAttribute cls method)

/-- The strings of `set(elements)`; no other element equals one. -/
def strings : List Element → Except PyExc (List String)
  | [] => .ok []
  | x :: xs => do
      x.hash
      let rest ← strings xs
      return x.string?.toList ++ rest

end Element

def ObjectTexts.stringSet (t : ObjectTexts) (v : StepValue) : Except PyExc (List String) := do
  Element.strings (← t.elements v)

/-! ## Parameters and placeholders -/

abbrev Params := List (String × StepValue)

namespace Params

def get? (p : Params) (key : String) : Option StepValue := p.lookup key

def get (p : Params) (key : String) : StepValue := (p.get? key).getD (.json .null)

def set (p : Params) (key : String) (value : StepValue) : Params := (key, value) :: p

end Params

def refPrefix : String := "<from_step_"

/-- What stands for `N` in a value `<from_step_N>`. -/
def refText? : Json → Option String
  | .str v =>
      if refPrefix.toList.isPrefixOf v.toList && ['>'].isSuffixOf v.toList then
        some (String.ofList ((v.toList.drop refPrefix.length).dropLast))
      else none
  | _ => none

/-- `step_outputs[ref]`; the log holds the steps whose output is looked up. -/
def lookUp (outputs : StepOutputs) (ref : Int) (missing : PyExc) : Eff PyExc Int StepValue where
  log := [ref]
  out :=
    match outputs.lookup ref with
    | some value => .ok value
    | none => .error missing

def resolveWith (resolve : Json → Eff PyExc Int StepValue) :
    List (String × Json) → Eff PyExc Int Params
  | [] => pure []
  | (k, v) :: rest => do
      let value ← resolve v
      let resolved ← resolveWith resolve rest
      return (k, value) :: resolved

end RealityAI.Model.State
