import RealityAI.Model.Plan
import RealityAI.Model.QueryOutputs
import RealityAI.Model.OuterSafety
import Mathlib.Data.List.AList

/-!
# `state.py`: step outputs and tool calls
-/

namespace RealityAI.Model.State
open Python Schemas

/-- What a step may return, or the exception it raised. -/
inductive StepValue where
  | transcript (t : StudentTranscript)
  | program (d : DegreeProgram)
  | sections (cs : List CourseSection)
  | unsatisfied (rs : List UnsatisfiedRequirement)
  | chunks (cs : List SyllabusChunk)
  | options (os : List ScheduleOption)
  | json (v : Json)
  | exc (e : PyExc)

abbrev StepOutputs := AList fun _ : Int => StepValue

structure ToolCall where
  toolName : String
  arguments : Dict := []
  result : StepValue := .json .null
  success : Bool := true
  error : Option String := none

def errorField : Json → Except PyExc (Option String)
  | .null => .ok none
  | .str s => .ok (some s)
  | _ => .error ⟨.validationError, "Input should be a valid string"⟩

end RealityAI.Model.State
