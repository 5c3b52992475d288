import RealityAI.Library.Superstep
import RealityAI.Model.State

/-!
# `agents/planning_agent.py`: the plan graph
-/

namespace RealityAI.Model.PlanningAgent
open Library Library.Superstep Python Schemas State Safety

/-! ## Names and trace helpers -/

def QuerySource.value : QuerySource → String
  | .canvas => "canvas"
  | .degreeDb => "degree_db"
  | .catalogDb => "catalog_db"
  | .syllabusRag => "syllabus_rag"

def SolverType.value : SolverType → String
  | .scheduleCsp => "schedule_csp"
  | .prereqCheck => "prereq_check"

def stepNodeSuffix (step : PlanStep) : String :=
  match step.agentType with
  | .query => step.querySource.elim "query" fun source => "query_" ++ QuerySource.value source
  | .constraintSolver =>
      step.solverType.elim "constraint_solver" fun solver => "solver_" ++ SolverType.value solver
  | .reasoning =>
      let template := step.reasoningTemplate.getD ""
      if template = "" then "reasoning" else "reasoning_" ++ template
  | .action =>
      let tool := step.actionTool.getD ""
      if tool = "" then "action" else "action_" ++ tool

def stepNodeName (step : PlanStep) : String :=
  "step_" ++ toString step.stepId ++ "_" ++ stepNodeSuffix step

def stepLabel (step : PlanStep) : String :=
  match step.agentType with
  | .query => step.querySource.elim "query" fun source => "query/" ++ QuerySource.value source
  | .action =>
      let tool := step.actionTool.getD ""
      if tool = "" then "action" else tool
  | .reasoning => "reasoning/" ++ step.reasoningTemplate.getD "None"
  | .constraintSolver => "solver/" ++ step.solverType.elim "None" SolverType.value

def stepArgs (step : PlanStep) : Dict :=
  match step.agentType with
  | .query => step.queryParams.getD []
  | .action => step.actionArgs.getD []
  | .reasoning =>
      [("inputs", step.reasoningInputs.elim .null fun ids => .arr (ids.map .int)),
       ("template", step.reasoningTemplate.elim .null .str)]
  | .constraintSolver => step.solverInputs.getD []

def courseCodes (courses : List CourseSection) : Json :=
  .arr (courses.map fun c => .str c.courseCode)

def summarizeForTrace : StepValue → StepValue
  | .transcript t =>
      .json (.obj [("type", .str "StudentTranscript"),
        ("completed", .arr ((sorted t.completed).map .str))])
  | .program d =>
      .json (.obj [("type", .str "DegreeProgram"), ("major", .str d.major),
        ("track", d.track.elim .null .str)])
  | .sections (c :: cs) =>
      .json (.obj [("type", .str "list[CourseSection]"), ("codes", courseCodes (c :: cs))])
  | .options (o :: os) =>
      .json (.obj [("type", .str "list[ScheduleOption]"), ("count", .int (os.length + 1)),
        ("top_courses", courseCodes o.courses)])
  | result => result

/-! ## Step nodes -/

def denialText (d : Dict) : Json := (d.get "message").or (d.get "reason_code")

structure Handlers (ω : Type) where
  runQueryStep : PlanStep → StepOutputs → Except PyExc StepValue
  runReasoningStep : PlanStep → StepOutputs → Except PyExc StepValue
  runSolverStep : PlanStep → StepOutputs → Except PyExc StepValue
  runActionStep : PlanStep → StepOutputs → Option SessionContext → Eff PyExc ω Dict

/-- Handlers of which an action that reports a denial says why in a text, as `run_action_step`
does. -/
structure LawfulHandlers (ω : Type) extends Handlers ω where
  denial : ∀ step outputs session d, (runActionStep step outputs session).out = .ok d →
    (d.get "denied_by_inner_safety").truthy = true → ∃ text, errorField (denialText d) = .ok text

structure ExecState where
  stepOutputs : StepOutputs
  toolCalls : List ToolCall
  session : Option SessionContext

structure Update where
  stepOutputs : StepOutputs
  toolCalls : List ToolCall

def mergeStepOutputs (left right : StepOutputs) : StepOutputs := right ∪ left

def mergeUpdate (state : ExecState) (update : Update) : ExecState :=
  { state with
    stepOutputs := mergeStepOutputs state.stepOutputs update.stepOutputs
    toolCalls := state.toolCalls ++ update.toolCalls }

section
variable {ω : Type}

def dispatchStep (h : Handlers ω) (step : PlanStep) (outputs : StepOutputs)
    (session : Option SessionContext) : Eff PyExc ω StepValue :=
  match step.agentType with
  | .query => .lift (h.runQueryStep step outputs)
  | .action => do
      let result ← h.runActionStep step outputs session
      return .json (.obj result)
  | .reasoning => .lift (h.runReasoningStep step outputs)
  | .constraintSolver => .lift (h.runSolverStep step outputs)

def stepUpdate (step : PlanStep) (value : StepValue) (call : ToolCall) : Update where
  stepOutputs := AList.singleton step.stepId value
  toolCalls := [call]

def deniedResult (step : PlanStep) (result : StepValue) : Option Dict :=
  match result with
  | .json (.obj d) =>
      if step.agentType = .action ∧ (Dict.get d "denied_by_inner_safety").truthy then some d else none
  | _ => none

def stepOutcome (step : PlanStep) : Except PyExc StepValue → Except PyExc Update
  | .error e => .ok (stepUpdate step (.exc e)
      { toolName := stepLabel step, arguments := stepArgs step, success := false,
        error := some e.text })
  | .ok result =>
      match deniedResult step result with
      | some d => do
          return stepUpdate step result
            { toolName := stepLabel step, arguments := stepArgs step,
              result := summarizeForTrace result, success := false,
              error := ← errorField (denialText d) }
      | none => .ok (stepUpdate step result
          { toolName := stepLabel step, arguments := stepArgs step,
            result := summarizeForTrace result, success := true })

def makeStepNode (h : Handlers ω) (step : PlanStep) (state : ExecState) : Eff PyExc ω Update :=
  let dispatched := dispatchStep h step state.stepOutputs state.session
  ⟨dispatched.log, stepOutcome step dispatched.out⟩

/-! ## The graph -/

def nodeNames (p : Plan) (stepId : Int) : String := (p.find? stepId).elim "" stepNodeName

def dependants (p : Plan) (stepId : Int) : List Int :=
  (p.steps.filter fun s => stepId ∈ s.dependsOn).map fun s => s.stepId

def stepEdge (p : Plan) (step : PlanStep) : Edge String :=
  match step.dependsOn with
  | [] => .start (nodeNames p step.stepId)
  | [dep] => .single (nodeNames p dep) (nodeNames p step.stepId)
  | deps => .join (deps.map (nodeNames p)) (nodeNames p step.stepId)

def stepEdges (p : Plan) (step : PlanStep) : List (Edge String) :=
  if dependants p step.stepId = [] then
    [stepEdge p step, .finish (nodeNames p step.stepId)]
  else [stepEdge p step]

def compilePlanGraph (h : Handlers ω) (p : Plan) : Graph String ExecState Update PyExc ω where
  nodes := p.steps.map fun step => (nodeNames p step.stepId, makeStepNode h step)
  edges := p.steps.flatMap (stepEdges p)
  merge := mergeUpdate

abbrev PlanTask (ω : Type) := Task String ExecState Update PyExc ω

/-- `subgraph.ainvoke`, with as many supersteps as the plan can need. -/
def invokePlanGraph (h : Handlers ω) (p : Plan) (order : MergeOrder Update)
    (session : Option SessionContext) : List (List (PlanTask ω)) × Outcome ExecState PyExc :=
  let graph := compilePlanGraph h p
  graph.run order (p.steps.length + 1) 0 (graph.start ⟨∅, [], session⟩)

end

end RealityAI.Model.PlanningAgent
