import RealityAI.Library.Run
import RealityAI.Model.ActionAgent
import RealityAI.Model.OutputFilter

/-!
# `orchestrator.py`: the graph of a conversation

The decision of the coreference gate is a parameter, and so are the three agents. A thread takes one
command at a time: a fresh message restarts at the entry point, a resume runs the node before which
the thread is paused, and a failure ends the run.
-/

namespace RealityAI.Model.Orchestrator
open Library Python Safety State ActionAgent OutputFilter

/-! ## State -/

structure RewrittenQuery where
  originalQuery : String
  rewrittenQuery : String
  confidence : Rat

/-- `AgentState`, as far as the nodes of the graph read it; a missing key is `none`. -/
structure AgentState where
  messages : List Message := []
  intent : Option Json := none
  intentConfidence : Option Json := none
  selectedAgent : Option String := none
  userId : Option Json := none
  sessionId : Option Json := none
  userRole : Option Json := none
  outerSafetyResult : Option OuterSafetyResult := none
  requiresApproval : Option Bool := none
  approvalStatus : Option String := none
  rewrittenQuery : Option RewrittenQuery := none
  userQueryNormalized : Option Json := none
  toolCalls : Option (List ToolCall) := none
  response : Option Json := none
  outputFilterResult : Option OutputFilterResult := none

/-! ## Nodes -/

def lastContent (s : AgentState) : Except PyExc Json :=
  match s.messages.getLast? with
  | some m => .ok m.content
  | none => .error ⟨.other, "list index out of range"⟩

def parseIntent (reply : Reply) : Except PyExc (Json × Json) :=
  let fallback := (.str "query", .float (.finite false [5] 0))
  match reply.content with
  | .str _ =>
      match reply.parsed with
      | some (.obj result) =>
          .ok ((Dict.get? result "intent").getD fallback.1,
            (Dict.get? result "confidence").getD fallback.2)
      | _ => .ok fallback
  | content => .error ⟨.typeError,
      "the JSON object must be str, bytes or bytearray, not " ++ content.typeName⟩

def classifyIntent (reply : Except PyExc Reply) (s : AgentState) : Except PyExc AgentState := do
  let _ ← lastContent s
  let (intent, confidence) ← parseIntent (← reply)
  return { s with intent := some intent, intentConfidence := some confidence }

def agentMap : List (String × String) :=
  [("action", "action_agent"), ("query", "query_agent"), ("planning", "planning_agent")]

def routeToAgent (s : AgentState) : Except PyExc AgentState :=
  match s.intent.getD (.str "query") with
  | .str intent => .ok { s with selectedAgent := some ((agentMap.lookup intent).getD "query_agent") }
  | intent =>
      if intent.hashable then .ok { s with selectedAgent := some "query_agent" }
      else .error intent.unhashable

def outerView (s : AgentState) : OuterView where
  messages := s.messages
  userId := s.userId
  sessionId := s.sessionId
  userRole := s.userRole
  intent := s.intent

def outerSafetyNode (tiers : Tiers) (s : AgentState) : Except PyExc AgentState := do
  let update ← outerSafetyCheck tiers (outerView s)
  return { s with outerSafetyResult := some update.1, requiresApproval := some update.2 }

def outerReason (s : AgentState) (fallback : String) : String :=
  match s.outerSafetyResult with
  | some outer => if outer.finalReasonHuman = "" then fallback else outer.finalReasonHuman
  | none => fallback

def approves (decision : Json) : Except PyExc Bool :=
  if decision.truthy then
    match decision with
    | .obj d => .ok (Dict.get d "approved").truthy
    | v => .error v.noGet
  else .ok false

def hitlApproval (decision : Json) (s : AgentState) : Except PyExc AgentState := do
  let reason := outerReason s "Operation flagged for review"
  -- `decision` is what `interrupt` returns: the payload of the resume command
  if ← approves decision then return { s with approvalStatus := some "approved" }
  else
    return { s with
      approvalStatus := some "rejected"
      response := some (.str ("Operation rejected by reviewer.\nReason: " ++ reason)) }

structure Coref where
  needsCoref : String → List Message → Bool
  answer : Except PyExc RewrittenQuery
  threshold : Rat

def corefResolverNode (coref : Coref) (s : AgentState) : Except PyExc AgentState :=
  match s.messages.getLast? with
  | none => .ok s
  | some last => do
      let userQuery ← strField last.content
      if coref.needsCoref userQuery s.messages.dropLast then
        let rewritten := coref.answer.toOption.getD ⟨userQuery, userQuery, 0⟩
        let effective :=
          if coref.threshold ≤ rewritten.confidence then rewritten.rewrittenQuery
          else rewritten.originalQuery
        return { s with
          rewrittenQuery := some rewritten
          userQueryNormalized := some (.str effective) }
      else
        return { s with
          rewrittenQuery := some ⟨userQuery, userQuery, 1⟩
          userQueryNormalized := some (.str userQuery) }

structure Agents where
  runActionAgent : AgentView → Except PyExc AgentResult
  runQueryAgent : AgentView → Except PyExc AgentResult
  runPlanningAgent : AgentView → Except PyExc AgentResult

def agentView (s : AgentState) : AgentView where
  messages := s.messages
  userId := s.userId
  sessionId := s.sessionId
  userRole := s.userRole
  userQueryNormalized := s.userQueryNormalized

def executeAgent (rt : Runtime) (agents : Agents) (s : AgentState) : Except PyExc AgentState := do
  let agent := s.selectedAgent.getD "unknown"
  let result ←
    if agent = "action_agent" then agents.runActionAgent (agentView s)
    else if agent = "query_agent" then agents.runQueryAgent (agentView s)
    else if agent = "planning_agent" then agents.runPlanningAgent (agentView s)
    else
      let userMsg := (s.messages.getLast?.map Message.content).getD (.str "")
      .ok ⟨.str ("[" ++ agent ++ "] Received: " ++ rt.str userMsg), []⟩
  return { s with response := some result.response, toolCalls := some result.toolCalls }

def generateResponse (s : AgentState) : AgentState :=
  { s with response := some (s.response.getD (.str "I'm not sure how to help with that.")) }

def rejectNode (s : AgentState) : AgentState :=
  { s with response := some (.str (outerReason s "Request denied by safety policy.")) }

def outputFilterNode (rt : Runtime) (s : AgentState) : Except PyExc AgentState :=
  match (s.response.getD (.str "")).or (.str "") with
  | .str "" => .ok s
  | .str response =>
      let result := filterResponse rt response
      .ok { s with
        outputFilterResult := some result
        response := if 0 < result.redactionsCount then some (.str result.redactedText)
          else s.response }
  | v => .error ⟨.typeError, "expected string or bytes-like object, got '" ++ v.typeName ++ "'"⟩

/-! ## The graph -/

inductive Node where
  | intentClassification | agentRouting | outerSafetyCheck | corefResolver | hitlApproval
  | rejectNode | execution | responseGeneration | outputFilter
  deriving DecidableEq, Repr

/-- What the nodes meet outside; `decision` is the payload with which a pause is resumed. -/
structure NodeWorld where
  intentReply : Except PyExc Reply
  tiers : Tiers
  decision : Json
  coref : Coref
  agents : Agents

def runNode (rt : Runtime) (w : NodeWorld) (s : AgentState) :
    Node → Except PyExc AgentState
  | .intentClassification => classifyIntent w.intentReply s
  | .agentRouting => routeToAgent s
  | .outerSafetyCheck => outerSafetyNode w.tiers s
  | .corefResolver => corefResolverNode w.coref s
  | .hitlApproval => hitlApproval w.decision s
  | .rejectNode => .ok (rejectNode s)
  | .execution => executeAgent rt w.agents s
  | .responseGeneration => .ok (generateResponse s)
  | .outputFilter => outputFilterNode rt s

def routeAfterOuterSafety (s : AgentState) : SafetyDecision :=
  match s.outerSafetyResult with
  | none => .deny
  | some outer => outer.finalDecision

def nextNode (s : AgentState) : Node → Option Node
  | .intentClassification => some .agentRouting
  | .agentRouting => some .outerSafetyCheck
  | .outerSafetyCheck =>
      match routeAfterOuterSafety s with
      | .allow => some .corefResolver
      | .deny => some .rejectNode
      | .flagForReview => some .hitlApproval
  | .corefResolver => some .execution
  | .hitlApproval =>
      if s.approvalStatus = some "approved" then some .corefResolver else some .responseGeneration
  | .rejectNode => some .responseGeneration
  | .execution => some .responseGeneration
  | .responseGeneration => some .outputFilter
  | .outputFilter => none

/-! ## Threads -/

inductive Position where
  | idle
  | at (node : Node)
  | failed
  deriving DecidableEq, Repr

structure Thread where
  state : AgentState
  position : Position

structure TurnInput where
  message : Message
  fields : AgentState → AgentState

/-- `madeFor` is the number of the message for which a reviewer has decided; the code does not see
it. -/
inductive Command where
  | message (input : TurnInput)
  | resume (madeFor : Nat) (world : NodeWorld)
  | advance (world : NodeWorld)

/-- What a run shows: fresh messages, delivered decisions, nodes with the number of the last message,
verdicts of outer safety, and responses at `END`. -/
inductive ThreadEvent where
  | message
  | resumed (madeFor : Nat) (decision : Json)
  | ran (node : Node) (number : Nat)
  | judged (decision : SafetyDecision)
  | delivered (response : Json)

def receive (s : AgentState) (input : TurnInput) : AgentState :=
  { input.fields s with messages := s.messages ++ [input.message] }

def verdictEvents (node : Node) (s : AgentState) : List ThreadEvent :=
  if node = .outerSafetyCheck then
    s.outerSafetyResult.toList.map fun outer => .judged outer.finalDecision
  else []

def runAt (rt : Runtime) (w : NodeWorld) (s : AgentState) (node : Node) :
    Thread × List ThreadEvent :=
  let ran := .ran node s.messages.length
  match runNode rt w s node with
  -- when `hitl_approval` fails, the thread stays paused
  | .error _ => (⟨s, if node = .hitlApproval then .at .hitlApproval else .failed⟩, [ran])
  | .ok s' =>
      match nextNode s' node with
      | some next => (⟨s', .at next⟩, ran :: verdictEvents node s')
      | none => (⟨s', .idle⟩, [ran, .delivered (s'.response.getD .null)])

def takeCommand (rt : Runtime) (t : Thread) : Command → Thread × List ThreadEvent
  | .message input =>
      match t.position with
      | .idle | .failed | .at .hitlApproval =>
          (⟨receive t.state input, .at .intentClassification⟩, [.message])
      -- a run is under way
      | _ => (t, [])
  | .resume madeFor w =>
      match t.position with
      | .at .hitlApproval =>
          let ran := runAt rt w t.state .hitlApproval
          (ran.1, .resumed madeFor w.decision :: ran.2)
      | _ => (t, [])
  | .advance w =>
      match t.position with
      | .at .hitlApproval | .idle | .failed => (t, [])
      | .at node => runAt rt w t.state node

def thread (rt : Runtime) : Machine Thread Command ThreadEvent := ⟨takeCommand rt⟩

end RealityAI.Model.Orchestrator
