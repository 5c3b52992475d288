import RealityAI.Model.InnerSafety
import RealityAI.Model.PlanningAgent

/-!
# `agents/action_agent.py`: the standalone subgraph and the action step of a plan
-/

namespace RealityAI.Model.ActionAgent
open Library Library.Superstep Python Schemas Safety State PlanningAgent

/-! ## Tools -/

def actionTools : List (String × ActionTool) :=
  [("grade_update", .gradeUpdate), ("enrollment_modify", .enrollmentModify),
   ("assignment_create", .assignmentCreate)]

/-- What `tool.invoke` hands back. -/
inductive Returned where
  | dict (raw : Dict)
  | toolMessage

def noGet : PyExc := ⟨.attributeError, "'ToolMessage' object has no attribute 'get'"⟩

def Returned.asDict : Returned → Except PyExc Dict
  | .dict raw => .ok raw
  | .toolMessage => .error noGet

/-- LangChain takes such arguments for a call that holds the arguments of the function. -/
def IsToolCall (args : Dict) : Prop := Dict.get args "type" = .str "tool_call"

/-- The arguments of the call are these; a description can be missing. -/
def ReadFrom (args : Dict) (call : WriteCall) : Prop :=
  ∀ key v, (key, v) ∈ call.args → Dict.get? args key = some v ∨
    key = "description" ∧ v = .str "" ∧ Dict.get? args key = none

/-- What LangChain does in `tool.invoke(args)`: it makes a call of the arguments, and hands back what
it makes of the dict that the function returns. The laws are those that LangChain documents. -/
structure LangChain where
  makeCall : ActionTool → Dict → Except PyExc WriteCall
  handBack : Dict → Dict → Except PyExc Returned
  own : ∀ {tool args call}, makeCall tool args = .ok call → call.tool = tool
  plain : ∀ {tool args call}, ¬ IsToolCall args → makeCall tool args = .ok call →
    ReadFrom args call
  nested : ∀ {tool args call}, IsToolCall args → makeCall tool args = .ok call →
    ∃ inner, Dict.get args "args" = .obj inner ∧ ReadFrom inner call
  returned : ∀ {args raw}, handBack args raw = .ok (.dict raw) ∨
    IsToolCall args ∧ ∀ d, handBack args raw ≠ .ok (.dict d)

abbrev Functions := WriteCall → Except PyExc Dict

/-- What one attempt meets: the live state, the tools, and the new audit id. -/
structure World where
  readCourseState : ReadCourse
  langChain : LangChain
  functions : Functions
  stamp : Stamp

def invokeTool (w : World) (tool : ActionTool) : Json → Eff PyExc Event Returned
  | .obj args => do
      let call ← Eff.lift (w.langChain.makeCall tool args)
      Eff.emit (.invoked call)
      let raw ← Eff.lift (w.functions call)
      Eff.lift (w.langChain.handBack args raw)
  | _ => Eff.raise ⟨.validationError, "Input should be a valid dictionary"⟩

def succeeded (raw : Dict) : Bool := ((raw.get? "success").getD (.bool true)).truthy

/-! ## The action step of a plan -/

def defaultPlanSession : SessionContext where
  userId := ""
  sessionId := "plan-driven-default"
  userRole := "student"

def deniedByInnerSafety (operation : String) (result : InnerSafetyResult) : Dict :=
  [("success", .bool false), ("operation", .str operation), ("denied_by_inner_safety", .bool true),
   ("reason_code", .str result.finalReasonCode), ("message", .str result.finalReasonHuman),
   ("audit_id", .str result.audit.auditId)]

def stepExecution (operation : String) (returned : Except PyExc Returned) : Dict × Bool × Json :=
  match returned >>= Returned.asDict with
  | .ok raw => (raw, succeeded raw, if succeeded raw then .null else raw.get "message")
  | .error e =>
      ([("success", .bool false), ("operation", .str operation), ("message", .str e.text)], false,
        .str e.text)

def runActionStep (rt : Runtime) (w : World) (step : PlanStep) (session : Option SessionContext) :
    Eff PyExc Event Dict :=
  let operation := step.actionTool.getD ""
  if operation = "" then
    Eff.raise ⟨.valueError, step.handlerError "missing action_tool"⟩
  else match actionTools.lookup operation with
    | none => Eff.raise ⟨.valueError, step.handlerError ("unknown action_tool " ++ operation)⟩
    | some tool => do
        let args := step.actionArgs.getD []
        let result ← innerSafetyCheck rt w.readCourseState w.stamp
          { session := session.getD defaultPlanSession, toolName := operation, toolArgs := args }
        if result.finalDecision = .deny then
          return deniedByInnerSafety operation result
        else
          let returned := invokeTool w tool (.obj args)
          let (raw, succeeded, error) := stepExecution operation returned.out
          let finalAudit := updateAuditForExecution result.audit succeeded error
          ⟨returned.log ++ [.persisted finalAudit],
            .ok (raw.set "audit_id" (.str finalAudit.auditId))⟩

/-! ## The nodes of the subgraph -/

/-- `ActionAgentInternalState`; a key that no node has written yet is `none`. -/
structure InternalState where
  userMessage : String
  userId : String
  sessionId : String
  userRole : String
  selectedTool : Option Json := none
  toolArguments : Option Json := none
  confirmationText : Option Json := none
  innerSafetyResult : Option InnerSafetyResult := none
  rawToolResult : Option Returned := none
  executionError : Option String := none
  responseText : Option Json := none
  success : Option Bool := none

namespace InternalState

def response (s : InternalState) : Json := s.responseText.getD .null

/-- `state.get("raw_tool_result") or {}` where it is asked for a key -/
def rawDict (s : InternalState) : Except PyExc Dict := (s.rawToolResult.getD (.dict [])).asDict

end InternalState

def noTool (s : InternalState) (responseText : Json) : InternalState :=
  { s with
    selectedTool := some (.str "")
    toolArguments := some (.obj [])
    confirmationText := some (.str "")
    responseText := some responseText
    success := some true }

def routeAction (reply : Reply) (s : InternalState) : Except PyExc InternalState :=
  match reply.content with
  | .str raw =>
      match reply.parsed with
      | none => .ok (noTool s (.str raw))
      | some (.obj decision) =>
          if (Dict.get decision "clarification_needed").truthy then
            .ok (noTool s ((Dict.get? decision "question").getD (.str "Need clarification.")))
          else .ok { s with
            selectedTool := some ((Dict.get? decision "tool").getD (.str ""))
            toolArguments := some ((Dict.get? decision "arguments").getD (.obj []))
            confirmationText := some ((Dict.get? decision "confirmation").getD (.str "")) }
      | some decision => .error decision.noGet
  | content => .error ⟨.typeError,
      "the JSON object must be str, bytes or bytearray, not " ++ content.typeName⟩

def dictField : Json → Except PyExc Dict
  | .obj d => .ok d
  | _ => .error ⟨.validationError, "Input should be a valid dictionary"⟩

def gateInput (s : InternalState) : Except PyExc InnerSafetyInput := do
  let toolName := ((s.selectedTool.getD (.str "")).or (.str ""))
  let args := ((s.toolArguments.getD (.obj [])).or (.obj []))
  let userRole := if s.userRole = "" then "student" else s.userRole
  return { session := { userId := s.userId, sessionId := s.sessionId, userRole },
           toolName := ← strField toolName, toolArgs := ← dictField args }

def nothingToGate (s : InternalState) : Bool :=
  s.response.truthy && !(s.selectedTool.getD .null).truthy

def innerSafetyNode (rt : Runtime) (w : World) (s : InternalState) :
    Eff PyExc Event InternalState :=
  if nothingToGate s then pure s
  else do
    let input ← Eff.lift (gateInput s)
    let result ← innerSafetyCheck rt w.readCourseState w.stamp input
    if result.finalDecision = .deny then
      return { s with
        innerSafetyResult := some result
        responseText := some ((Json.str result.finalReasonHuman).or (.str result.finalReasonCode))
        success := some false }
    else return { s with innerSafetyResult := some result }

def findTool (rt : Runtime) (toolName : Json) : Except PyExc ActionTool :=
  match toolName with
  | .str name =>
      match actionTools.lookup name with
      | some tool => .ok tool
      | none => .error ⟨.keyError, rt.reprStr name⟩
  | v => if v.hashable then .error ⟨.keyError, rt.repr v⟩ else .error v.unhashable

def toolOutcome (s : InternalState) : Except PyExc Returned → InternalState
  | .ok raw => { s with rawToolResult := some raw, success := some true }
  | .error e => { s with
      rawToolResult := some (.dict [("success", .bool false), ("message", .str e.text)])
      executionError := some e.text
      success := some false
      responseText := some (.str ("Tool execution failed: " ++ e.text)) }

def executeActionTool (rt : Runtime) (w : World) (s : InternalState) :
    Eff PyExc Event InternalState :=
  match s.innerSafetyResult with
  | none => pure s
  | some inner =>
      if inner.finalDecision = .deny then pure s
      else do
        let args := ((s.toolArguments.getD (.obj [])).or (.obj []))
        let tool ← Eff.lift (findTool rt (s.selectedTool.getD (.str "")))
        let returned := invokeTool w tool args
        ⟨returned.log, .ok (toolOutcome s returned.out)⟩

def executionSucceeded (s : InternalState) : Except PyExc Bool :=
  if s.success.getD false then s.rawDict.map succeeded else .ok false

def executionError (s : InternalState) (succeeded : Bool) : Except PyExc Json :=
  let error := s.executionError.elim Json.null Json.str
  if error.truthy then .ok error
  else if succeeded then .ok .null
  else s.rawDict.map fun raw => raw.get "message"

def finalOutcome (s : InternalState) : Except PyExc (Bool × Json) := do
  let succeeded ← executionSucceeded s
  return (succeeded, ← executionError s succeeded)

def recordExecution (s : InternalState) : Eff PyExc Event InternalState :=
  match s.innerSafetyResult with
  | none => pure s
  | some inner =>
      if inner.finalDecision = .allow then do
        let outcome ← Eff.lift (finalOutcome s)
        let finalAudit := updateAuditForExecution inner.audit outcome.1 outcome.2
        Eff.emit (.persisted finalAudit)
        return { s with innerSafetyResult := some { inner with audit := finalAudit } }
      else pure s

def finalText (rt : Runtime) (s : InternalState) : Except PyExc InternalState :=
  if s.response.truthy then return s
  else do
    let raw ← s.rawDict
    let confirmation := s.confirmationText.getD (.str "")
    let msg := (raw.get? "message").getD (.str "Operation completed.")
    let text := rt.strip (rt.str confirmation ++ "\n\nResult: " ++ rt.str msg)
    return { s with responseText := some (.str text) }

def finalizeAudit (rt : Runtime) (s : InternalState) : Eff PyExc Event InternalState := do
  let s ← recordExecution s
  Eff.lift (finalText rt s)

/-! ## The agent -/

structure ActionAgentInput where
  userMessage : String
  userId : String
  sessionId : String
  userRole : String

structure ActionAgentOutput where
  response : String
  success : Bool
  selectedTool : String
  auditId : String

def gatedNodes (rt : Runtime) (w : World) (s : InternalState) : Eff PyExc Event InternalState := do
  let s ← innerSafetyNode rt w s
  let s ← executeActionTool rt w s
  finalizeAudit rt s

def runSubgraph (rt : Runtime) (w : World) (reply : Reply) (s : InternalState) :
    Eff PyExc Event InternalState := do
  let s ← Eff.lift (routeAction reply s)
  gatedNodes rt w s

def actionOutput (final : InternalState) : Except PyExc ActionAgentOutput := do
  return { response := ← strField (final.responseText.getD (.str "")),
           success := final.success.getD false,
           selectedTool := ← strField ((final.selectedTool.getD (.str "")).or (.str "")),
           auditId := final.innerSafetyResult.elim "" fun inner => inner.audit.auditId }

def invokeActionSubgraph (rt : Runtime) (w : World) (reply : Reply) (input : ActionAgentInput) :
    Eff PyExc Event ActionAgentOutput := do
  let final ← runSubgraph rt w reply
    { userMessage := input.userMessage, userId := input.userId, sessionId := input.sessionId,
      userRole := input.userRole }
  Eff.lift (actionOutput final)

def effectiveRole (userRole : Option Json) : Json := (userRole.getD .null).or (.str "student")

/-- What the agents read from the graph state; a missing key is `none`. -/
structure AgentView where
  messages : List Message
  userId : Option Json
  sessionId : Option Json
  userRole : Option Json
  userQueryNormalized : Option Json

def actionInput (state : AgentView) : Except PyExc ActionAgentInput := do
  let userMsg := (state.messages.getLast?.map Message.content).getD (.str "")
  return { userMessage := ← strField userMsg,
           userId := ← strField (state.userId.getD (.str "")),
           sessionId := ← strField (state.sessionId.getD (.str "")),
           userRole := ← strField (effectiveRole state.userRole) }

structure AgentResult where
  response : Json
  toolCalls : List ToolCall

def actionResult (output : ActionAgentOutput) : AgentResult where
  response := .str output.response
  toolCalls :=
    if output.selectedTool = "" then []
    else [{ toolName := output.selectedTool, success := output.success,
            error := if output.success then none else some output.response }]

def runActionAgent (rt : Runtime) (w : World) (reply : Reply) (state : AgentView) :
    Eff PyExc Event AgentResult := do
  let input ← Eff.lift (actionInput state)
  let output ← invokeActionSubgraph rt w reply input
  return actionResult output

/-! ## The action steps of a plan -/

/-- The handlers of a plan; `world step` is what the attempt of an action step meets. -/
def planHandlers (rt : Runtime) (world : PlanStep → World)
    (query reasoning solver : PlanStep → StepOutputs → Except PyExc StepValue) : Handlers Event where
  runQueryStep := query
  runReasoningStep := reasoning
  runSolverStep := solver
  runActionStep step _ session := runActionStep rt (world step) step session

def planSession (state : AgentView) : Except PyExc SessionContext :=
  sessionContext (state.userId.getD (.str "")) (state.sessionId.getD (.str ""))
    (effectiveRole state.userRole)

/-- `run_planning_agent` once it has a plan, up to its report. -/
def executePlan (h : Handlers Event) (p : Plan) (order : MergeOrder Update) (state : AgentView) :
    Eff PyExc Event (Outcome ExecState PyExc) := do
  let session ← Eff.lift (planSession state)
  let run := invokePlanGraph h p order (some session)
  ⟨run.1.flatten.flatMap fun task => task.result.log, .ok run.2⟩

end RealityAI.Model.ActionAgent
