import RealityAI.Model.ActionTools
import RealityAI.Model.QuerySources
import RealityAI.Model.Reasoning

/-!
# `agents/planning_agent.py`: the reasoning and solver steps

The log of a handler holds the steps whose output it looks up.
-/

namespace RealityAI.Model.PlanSteps
open Library Python Schemas Safety State PlanningAgent ActionAgent QueryAgent Reasoning

/-- What the handlers of a plan work with; the reading of constraints is pydantic's. -/
structure StepWorld where
  builtins : Builtins
  objects : ObjectTexts
  validateConstraints : StepValue → Except PyExc ScheduleConstraints
  stores : DataStores

def missingInput (cls : String) : PyExc :=
  ⟨.valueError, "reasoning step missing input of type " ++ cls⟩

def expectProgram (inputs : List StepValue) : Except PyExc DegreeProgram :=
  match inputs.findSome? fun | .program d => some d | _ => none with
  | some d => .ok d
  | none => .error (missingInput "DegreeProgram")

def expectTranscript (inputs : List StepValue) : Except PyExc StudentTranscript :=
  match inputs.findSome? fun | .transcript t => some t | _ => none with
  | some t => .ok t
  | none => .error (missingInput "StudentTranscript")

def expectList (inputs : List StepValue) : Except PyExc StepValue :=
  match inputs.find? StepValue.isList with
  | some v => .ok v
  | none => .error (missingInput "list")

def explainSchedule (options : StepValue) : Except PyExc String :=
  if !options.truthy then .ok "No valid schedule options found."
  else match options with
    | .options (top :: _) =>
        let codes := ", ".intercalate (top.courses.map fun c => c.courseCode)
        .ok ("Recommended schedule: " ++ codes ++ " (" ++ toString top.totalCredits ++
          " credits). All listed courses have prereqs met and no time conflicts.")
    | _ => .error
        ⟨.valueError, "explain_schedule_recommendation expects list[ScheduleOption]"⟩

def applyTemplate (template : String) (inputs : List StepValue) : Except PyExc StepValue :=
  if template = "extract_unsatisfied_elective_pool" then do
    let program ← expectProgram inputs
    let transcript ← expectTranscript inputs
    return .unsatisfied (computeUnsatisfied program transcript)
  else if template = "explain_schedule_recommendation" then do
    let text ← explainSchedule (← expectList inputs)
    return .json (.str text)
  else .error ⟨.valueError, "unknown reasoning_template: " ++ template⟩

def readInputs (outputs : StepOutputs) : List Int → Eff PyExc Int (List StepValue)
  | [] => pure []
  | ref :: refs => do
      let value ← lookUp outputs ref ⟨.keyError, toString ref⟩
      let values ← readInputs outputs refs
      return value :: values

def runReasoningStep (step : PlanStep) (outputs : StepOutputs) : Eff PyExc Int StepValue := do
  let inputs ← readInputs outputs (step.reasoningInputs.getD [])
  Eff.lift (applyTemplate (step.reasoningTemplate.getD "None") inputs)

section
variable (w : StepWorld)

def resolveSolverInput (outputs : StepOutputs) (v : Json) : Eff PyExc Int StepValue :=
  match refText? v with
  | none => pure (.json v)
  | some text => do
      let ref ← Eff.lift (w.builtins.int text)
      lookUp outputs ref ⟨.keyError, toString ref⟩

def resolveSolverInputs (inputs : Dict) (outputs : StepOutputs) : Eff PyExc Int Params :=
  resolveWith (resolveSolverInput w outputs) inputs.items

def candidateSections : StepValue → Option (List CourseSection)
  | .sections cs => some cs
  | .json (.arr []) | .unsatisfied [] | .chunks [] | .options [] => some []
  | _ => none

def completedSet : StepValue → Except PyExc (List String)
  | .transcript t => .ok t.completed
  | v => if v.isList then w.objects.stringSet v else .ok []

def scheduleCsp (inputs : Params) : Except PyExc (List ScheduleOption) :=
  match candidateSections (inputs.get "candidates") with
  | none => .error ⟨.valueError, "schedule_csp expects candidates: list[CourseSection]"⟩
  | some candidates => do
      let completed ← completedSet w (inputs.get "completed")
      let constraints ← w.validateConstraints ((inputs.get "constraints").or (.json (.obj [])))
      solve candidates completed constraints

def runSolverStep (step : PlanStep) (outputs : StepOutputs) : Eff PyExc Int StepValue :=
  match step.solverType with
  | some .scheduleCsp => do
      let inputs ← resolveSolverInputs w (step.solverInputs.getD []) outputs
      Eff.lift (.options <$> scheduleCsp w inputs)
  | some .prereqCheck => Eff.raise ⟨.other, "prereq_check solver is not implemented yet"⟩
  | none => Eff.raise ⟨.valueError, "unknown solver_type: None"⟩

def stepHandlers (world : PlanStep → World) : Handlers Event :=
  planHandlers w.builtins.toRuntime world
    (fun step outputs => (runQueryStep w.builtins w.objects w.stores step outputs).out)
    (fun step outputs => (runReasoningStep step outputs).out)
    (fun step outputs => (runSolverStep w step outputs).out)

end

end RealityAI.Model.PlanSteps
