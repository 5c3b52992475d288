import RealityAI.Library.Effect
import RealityAI.Library.Regex.Substitution
import RealityAI.Model.State
import RealityAI.Python.Builtins

/-!
# `agents/degradation.py`

The agent function is a parameter: what each of its invocations returns or raises. A set is given
by its members, in any order.
-/

namespace RealityAI.Model.Degradation
open Library Library.Regex Library.Regex.Re Python

inductive FailureType where
  | timeout | refusal | hallucination | toolError
  deriving DecidableEq, Repr

structure FailureResult where
  failureType : FailureType
  message : String
  originalResponse : String := ""
  deriving DecidableEq, Repr

structure EscalationTicket where
  userQuery : String
  agentType : String
  toolsAttempted : List String := []
  errors : List FailureResult := []
  instructorName : String := "your instructor"
  deriving DecidableEq, Repr

/-- A tool call as a `dict`, by the keys that are read. -/
structure CallDict where
  toolName : Option String := none
  success : Option Json := none
  error : Option Json := none

inductive AttemptedCall where
  | object (tc : State.ToolCall)
  | dict (tc : CallDict)

structure AgentResult where
  response : Option String
  toolCalls : Option (List AttemptedCall)
  others : Dict := []

/-! ## Failure detection -/

def timeoutSeconds : Nat := 30

def cannot : Re := anyOf [seqs [str "can", anyOf [str "'t", str " not"]],
  seqs [str "don", anyOf [str "'t", str " not"]]]

def refusalPatterns : List Pattern :=
  [{ core := seqs [str "i can", anyOf [str "'t", str " not"], str " ",
       anyOf [str "help", str "assist", str "do that"]]
     bounded := false, consumes := by decide },
   { core := seqs [str "i", anyOf [str "'m", str " am"], str " ",
       anyOf [str "not able", str "unable"], str " to"]
     bounded := false, consumes := by decide },
   { core := seqs [anyOf [str "sorry", str "apologies"], opt (str ","), str " ",
       opt (str "but "), str "i ", cannot]
     bounded := false, consumes := by decide },
   { core := seqs [str "as an ai", opt (str ","), str " i ", cannot]
     bounded := false, consumes := by decide },
   { core := seqs [str "i ", opt (anyOf [str "must ", str "need to "]),
       anyOf [str "decline", str "refuse"]]
     bounded := false, consumes := by decide }]

def detectRefusal (b : Builtins) (response : String) : Bool :=
  let lower := b.lower response
  refusalPatterns.any fun p => p.findAll b.tables lower.toList != []

def courseLikePattern : Pattern where
  core := .seq (.rep [.range 'A' 'Z'] 2 (some 4)) (.rep [.digit] 3 (some 3))
  bounded := true
  consumes := by decide

def detectHallucination (b : Builtins) (response : String) (contextIds : List String) : Bool :=
  if contextIds = [] then false
  else
    let foundIds :=
      ((courseLikePattern.findAll b.tables (b.upper response).toList).map String.ofList).dedup
    let unknownIds := foundIds.filter (· ∉ contextIds)
    0 < unknownIds.length

def detectToolError (rt : Runtime) : List CallDict → Option FailureResult
  | [] => none
  | tc :: toolCalls =>
      if (tc.success.getD (.bool true)).truthy then detectToolError rt toolCalls
      else some
        { failureType := .toolError
          message := "Tool '" ++ tc.toolName.getD "unknown" ++ "' failed: " ++
            rt.str (tc.error.getD (.str "unknown error")) }

/-! ## Retry and escalation -/

def maxRetries : Nat := 1

def AttemptedCall.toolName : AttemptedCall → String
  | .object tc => tc.toolName
  | .dict tc => tc.toolName.getD ""

def AttemptedCall.toDict : AttemptedCall → CallDict
  | .object tc =>
      { toolName := some tc.toolName, success := some (.bool tc.success)
        error := some (tc.error.elim .null .str) }
  | .dict tc => tc

structure Progress where
  errors : List FailureResult := []
  toolsAttempted : List String := []

inductive Degraded where
  | result (r : AgentResult)
  | escalation (response : String) (toolCalls : List AttemptedCall) (ticket : EscalationTicket)

def timeoutFailure : FailureResult where
  failureType := .timeout
  message := "Agent timed out after " ++ toString timeoutSeconds ++ "s"

section
variable (b : Builtins) (agentFn : Nat → Except PyExc AgentResult) (contextIds : Option (List String))

def checkForFailures (response : String) (toolCalls : List AttemptedCall) : Option FailureResult :=
  if detectRefusal b response then some ⟨.refusal, "LLM refused the request", response⟩
  else if contextIds.any fun ids => ids ≠ [] && detectHallucination b response ids then
    some ⟨.hallucination, "Response references unknown entities", response⟩
  else detectToolError b.toRuntime (toolCalls.map AttemptedCall.toDict)

def attempts : List Nat → Progress → Eff PyExc Nat (AgentResult ⊕ Progress)
  | [], progress => return .inr progress
  | attempt :: rest, progress => do
      Eff.emit attempt
      match agentFn attempt with
      | .error e =>
          if e.cls = .timeoutError then
            attempts rest { progress with errors := progress.errors ++ [timeoutFailure] }
          else Eff.raise e
      | .ok result =>
          let response := result.response.getD ""
          let toolCalls := result.toolCalls.getD []
          let toolsAttempted := progress.toolsAttempted ++ toolCalls.map AttemptedCall.toolName
          match checkForFailures b contextIds response toolCalls with
          | none => return .inl result
          | some failure => attempts rest ⟨progress.errors ++ [failure], toolsAttempted⟩

def escalate (agentType userQuery : String) (progress : Progress) : Degraded :=
  let ticket : EscalationTicket :=
    { userQuery, agentType, toolsAttempted := progress.toolsAttempted.dedup
      errors := progress.errors }
  .escalation ("I've forwarded your request to " ++ ticket.instructorName ++ ". " ++
    "They'll be able to help you with this.") [] ticket

def executeWithDegradation (agentType userQuery : String) : Eff PyExc Nat Degraded := do
  match ← attempts b agentFn contextIds (List.range (maxRetries + 1)) {} with
  | .inl result => return .result result
  | .inr progress => return escalate agentType userQuery progress

end

end RealityAI.Model.Degradation
