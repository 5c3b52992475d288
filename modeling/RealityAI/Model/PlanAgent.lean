import RealityAI.Model.PlanSteps

/-!
# `agents/planning_agent.py`: `make_plan` and `run_planning_agent`
-/

namespace RealityAI.Model.PlanAgent
open Library Library.Superstep Python Schemas Safety State PlanningAgent ActionAgent PlanSteps

/-! ## The plan of the model -/

/-- What pydantic does when a plan is built: it reads the declared fields of a step, and renders
the errors of a validation. -/
structure PlanReader where
  readStep : Json → Except String StepFields
  stepError : (json : Json) → (message : String) → String
  reasoningError : Json → String
  planError : (message : String) → String

/-- `PlanStep.model_validate` -/
def validateStep (reader : PlanReader) (json : Json) : Except String PlanStep :=
  match reader.readStep json with
  | .error text => .error text
  | .ok fields =>
      match valid : fields.validate with
      | .ok () => .ok ⟨fields, valid⟩
      | .error message => .error (reader.stepError json message)

/-- `for s in raw_steps` -/
def iterate : Json → Except PyExc (List Json)
  | .arr items => .ok items
  | .str s => .ok (s.toList.map fun c => .str (String.singleton c))
  | .obj fields => .ok ((Dict.keys fields).map .str)
  | v => .error ⟨.typeError, "'" ++ v.typeName ++ "' object is not iterable"⟩

def buildPlan (reader : PlanReader) (order : SetOrder) (items : List Json) (reasoning : Json) :
    Except String Plan := do
  let steps ← items.mapM (validateStep reader)
  match reasoning with
  | .str reasoning => (Plan.construct order steps reasoning).mapError reader.planError
  | v => .error (reader.reasoningError v)

structure MadePlan where
  plan : Option Plan
  reasoning : Json
  raw : String

def makePlan (reader : PlanReader) (order : SetOrder) (reply : Reply) : Except PyExc MadePlan :=
  match reply.content with
  | .str raw =>
      match reply.parsed with
      | none => .ok ⟨none, .str "", raw⟩
      | some (.obj result) =>
          let reasoning := (Dict.get? result "reasoning").getD (.str "")
          let rawSteps := (Dict.get? result "steps").getD (.arr [])
          if !rawSteps.truthy then .ok ⟨none, reasoning, raw⟩
          else do
            let items ← iterate rawSteps
            match buildPlan reader order items reasoning with
            | .ok plan => return ⟨some plan, reasoning, raw⟩
            | .error text => return ⟨none, .str ("Plan validation failed: " ++ text), raw⟩
      | some result => .error result.noGet
  | content => .error ⟨.typeError,
      "the JSON object must be str, bytes or bytearray, not " ++ content.typeName⟩

/-! ## The report -/

def callKey (call : ToolCall) : String × String := (call.toolName, (Json.obj call.arguments).dumps)

/-- `tc_by_label.get(key)`: of the calls with one key the last counts. -/
def callOfStep (toolCalls : List ToolCall) (step : PlanStep) : Option ToolCall :=
  let key := (stepLabel step, (Json.obj (stepArgs step)).dumps)
  toolCalls.reverse.find? fun call => callKey call = key

def marker (call : Option ToolCall) : String :=
  match call with
  | some call => if call.success then "OK" else "FAILED (" ++ call.error.getD "None" ++ ")"
  | none => "?"

def reportLine (toolCalls : List ToolCall) (step : PlanStep) : String :=
  "Step " ++ toString step.stepId ++ ": " ++ step.description ++ " — " ++
    marker (callOfStep toolCalls step)

def report (p : Plan) (toolCalls : List ToolCall) : String :=
  "\n".intercalate
    (["**Plan:** " ++ p.reasoning, ""] ++ p.steps.map (reportLine toolCalls))

/-! ## The agent -/

structure PlanningResult extends AgentResult where
  plan : List PlanStep
  stepOutputs : StepOutputs

def unplanned (response : Json) : PlanningResult where
  response := response
  toolCalls := []
  plan := []
  stepOutputs := ∅

/-- What LangGraph adds: names that `add_node` refuses, and how many supersteps a run may take. -/
structure GraphLimits where
  reserved : String → Bool
  supersteps : Nat

def reservedName (name : String) : PyExc :=
  ⟨.valueError, "a reserved character in the node names: " ++ name⟩

def recursionError : PyExc := ⟨.other, "Recursion limit reached without hitting a stop condition."⟩

section
variable (limits : GraphLimits) (h : Handlers Event) (order : MergeOrder Update)

def runPlanGraph (p : Plan) (session : SessionContext) : Eff PyExc Event ExecState :=
  match (p.steps.map stepNodeName).find? limits.reserved with
  | some name => Eff.raise (reservedName name)
  | none =>
      let run := invokePlanGraph h p order (some session)
      let log := (run.1.take limits.supersteps).flatten.flatMap fun task => task.result.log
      if limits.supersteps < run.1.length then ⟨log, .error recursionError⟩
      else match run.2 with
        | .finished state => ⟨log, .ok state⟩
        | .raised e => ⟨log, .error e⟩
        | .cut => ⟨log, .error recursionError⟩

def humanContent : Json → Except PyExc Json
  | .str s => .ok (.str s)
  | .arr items =>
      if items.all fun | .str _ | .obj _ => true | _ => false then .ok (.arr items)
      else .error ⟨.validationError, "Input should be a valid string or a valid dictionary"⟩
  | _ => .error ⟨.validationError, "Input should be a valid string or a valid list"⟩

def userQuery (state : AgentView) : Except PyExc Json :=
  let normalized := state.userQueryNormalized.getD .null
  if normalized.truthy then .ok normalized
  else match state.messages.getLast? with
    | some m => .ok m.content
    | none => .error ⟨.other, "list index out of range"⟩

def planned (p : Plan) (state : AgentView) : Eff PyExc Event PlanningResult := do
  let session ← Eff.lift (planSession state)
  let final ← runPlanGraph limits h order p session
  return { response := .str (report p final.toolCalls), toolCalls := final.toolCalls,
           plan := p.steps, stepOutputs := final.stepOutputs }

def reportFailure (made : MadePlan) : Except PyExc PlanningResult :=
  match made.reasoning with
  | .str reasoning =>
      if "Plan validation failed".toList.isPrefixOf reasoning.toList then
        .ok (unplanned (.str reasoning))
      else .ok (unplanned ((Json.str reasoning).or (.str made.raw)))
  | v => .error (ObjectTexts.noAttribute v.typeName "startswith")

def runPlanningAgent (reader : PlanReader) (setOrder : SetOrder) (reply : Except PyExc Reply)
    (state : AgentView) : Eff PyExc Event PlanningResult := do
  let _ ← Eff.lift (userQuery state >>= humanContent)
  let reply ← Eff.lift reply
  let made ← Eff.lift (makePlan reader setOrder reply)
  match made.plan with
  | none => Eff.lift (reportFailure made)
  | some p => planned limits h order p state

end

end RealityAI.Model.PlanAgent
