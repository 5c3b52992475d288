import RealityAI.Model.Backend
import RealityAI.Model.CorefGate
import RealityAI.Model.Gateway
import RealityAI.Model.OuterTiers
import RealityAI.Model.PlanAgent
import RealityAI.Model.QueryAgent

/-!
# `routes/chat.py`: one message through the whole graph

The endpoint compiles the graph without a checkpointer, so it cannot be resumed; what LangGraph does
at the interrupt is a parameter. The events are those of the agent that runs.
-/

namespace RealityAI.Model.Chat
open Library Library.Superstep Python Schemas Safety State PlanningAgent ActionAgent ActionTools
open PlanSteps PlanAgent QueryAgent OuterTiers Orchestrator Gateway Backend

structure ChatRequest where
  message : String
  sessionId : Option String := none

structure ChatResponse where
  response : String
  intent : String
  selectedAgent : String
  sessionId : String
  deriving DecidableEq, Repr

structure ChatWorld where
  intentReply : Except PyExc Reply
  guard : PromptGuard
  corefAnswer : Except PyExc RewrittenQuery
  corefThreshold : Rat
  actionReply : Except PyExc Reply
  action : World
  queryReply : Except PyExc Reply
  random : RandomBytes
  planReply : Except PyExc Reply
  reader : PlanReader
  setOrder : SetOrder
  limits : GraphLimits
  order : MergeOrder Update
  steps : StepWorld
  attempts : PlanStep → World
  interrupted : Except PyExc Unit

namespace ChatWorld
variable (w : ChatWorld)

def rt : Runtime := w.steps.builtins.toRuntime

/-! ## The agents -/

def runActionAgent (view : AgentView) : Eff PyExc Event AgentResult := do
  let _ ← Eff.lift (actionInput view)
  let reply ← Eff.lift w.actionReply
  ActionAgent.runActionAgent w.rt w.action reply view

def runQueryAgent (view : AgentView) : Except PyExc AgentResult :=
  QueryAgent.runQueryAgent w.steps.builtins w.steps.objects w.steps.stores w.random w.queryReply view

def runPlanningAgent (view : AgentView) : Eff PyExc Event AgentResult := do
  let result ← PlanAgent.runPlanningAgent w.limits (stepHandlers w.steps w.attempts) w.order
    w.reader w.setOrder w.planReply view
  return result.toAgentResult

/-! ## The graph -/

def nodeWorld : NodeWorld where
  intentReply := w.intentReply
  tiers := outerTiers w.steps.builtins.toInterpreter w.guard
  -- the pause is never resumed
  decision := .null
  coref :=
    { needsCoref := CorefGate.needsCoref w.steps.builtins
      answer := w.corefAnswer
      threshold := w.corefThreshold }
  agents :=
    { runActionAgent := fun view => (w.runActionAgent view).out
      runQueryAgent := w.runQueryAgent
      runPlanningAgent := fun view => (w.runPlanningAgent view).out }

def agentLog (s : AgentState) : List Event :=
  let agent := s.selectedAgent.getD "unknown"
  if agent = "action_agent" then (w.runActionAgent (agentView s)).log
  else if agent = "planning_agent" then (w.runPlanningAgent (agentView s)).log
  else []

def node (node : Node) (s : AgentState) : Eff PyExc Event AgentState :=
  ⟨if node = .execution then w.agentLog s else [], runNode w.rt w.nodeWorld s node⟩

def finish (s : AgentState) : Eff PyExc Event AgentState := do
  let s ← w.node .responseGeneration s
  w.node .outputFilter s

/-- `compiled.ainvoke(initial_state)` -/
def ainvoke (s : AgentState) : Eff PyExc Event AgentState := do
  let s ← w.node .intentClassification s
  let s ← w.node .agentRouting s
  let s ← w.node .outerSafetyCheck s
  match routeAfterOuterSafety s with
  | .allow => do
      let s ← w.node .corefResolver s
      let s ← w.node .execution s
      w.finish s
  | .deny => do
      let s ← w.node .rejectNode s
      w.finish s
  | .flagForReview => do
      Eff.lift w.interrupted
      return s

end ChatWorld

/-! ## The endpoint -/

def sessionIdOf (user : TokenData) (request : ChatRequest) : String :=
  match request.sessionId with
  | none | some "" => user.userId ++ "-default"
  | some sessionId => sessionId

def initialState (user : TokenData) (request : ChatRequest) : AgentState where
  messages := [⟨.str request.message⟩]
  intent := some (.str "")
  intentConfidence := some (.float (.finite false [0] 0))
  selectedAgent := some ""
  toolCalls := some []
  response := some (.str "")
  userId := some (.str user.userId)
  sessionId := some (.str (sessionIdOf user request))
  requiresApproval := some false

/-- `ChatResponse` refuses what is not a text. -/
def chatResponse (sessionId : String) (result : AgentState) : Except PyExc ChatResponse := do
  return { response := ← strField (result.response.getD (.str "")),
           intent := ← strField (result.intent.getD (.str "")),
           selectedAgent := result.selectedAgent.getD "", sessionId }

def answer (w : ChatWorld) (user : TokenData) (request : ChatRequest) :
    Eff PyExc Event ChatResponse := do
  let result ← w.ainvoke (initialState user request)
  Eff.lift (chatResponse (sessionIdOf user request) result)

/-- `POST /chat`; an exception that nothing catches is answered with status 500. -/
def chat (decode : Decode) (w : ChatWorld) (token : String) (request : ChatRequest) :
    Eff HttpException Event ChatResponse :=
  match verifyToken decode token with
  | .error e => Eff.raise e
  | .ok user =>
      let answered := answer w user request
      ⟨answered.log, answered.out.mapError fun _ => ⟨500, "Internal Server Error"⟩⟩

/-! ## Many messages, and what they do to the core service -/

structure Turn where
  world : ChatWorld
  token : String
  request : ChatRequest

/-- An event with what the call meets: the digits of a new id, and whether the service answers. -/
structure Delivery where
  event : Event
  hex : String
  reachable : Bool

def deliver (columns : CoreService.Columns) (server : Server) (d : Delivery) : Server :=
  match d.event with
  | .invoked call =>
      (runCall (backendClient columns) d.hex call { server with reachable := d.reachable }).2
  | .persisted _ => server

end RealityAI.Model.Chat
