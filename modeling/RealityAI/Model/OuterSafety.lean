import RealityAI.Library.Effect
import RealityAI.Python.Value

/-!
# `safety/outer/schemas.py` and `safety/outer/node.py`

The three tiers are parameters; latencies and metadata are left out.
-/

namespace RealityAI.Model.Safety
open Python

inductive SafetyDecision where
  | allow | deny | flagForReview
  deriving DecidableEq, Repr

inductive TierName where
  | rbac | staticRules | injectionGuard
  deriving DecidableEq, Repr

structure TierResult where
  tier : TierName
  decision : SafetyDecision
  reasonCode : String
  reasonHuman : String
  deriving DecidableEq, Repr

structure SessionContext where
  userId : String
  sessionId : String
  userRole : String
  tenantId : Option String := none
  deriving DecidableEq, Repr

structure Message where
  content : Json

structure OuterSafetyInput where
  session : SessionContext
  intent : String
  userQueryRaw : String
  conversationHistory : List Message

structure OuterSafetyResult where
  finalDecision : SafetyDecision
  shortCircuitedAt : Option TierName
  tierResults : List TierResult
  finalReasonCode : String
  finalReasonHuman : String
  deriving DecidableEq, Repr

def strField : Json → Except PyExc String
  | .str s => .ok s
  | _ => .error ⟨.validationError, "Input should be a valid string"⟩

def sessionContext (userId sessionId userRole : Json) : Except PyExc SessionContext := do
  return { userId := ← strField userId, sessionId := ← strField sessionId,
           userRole := ← strField userRole }

/-- What the checks read from the graph state; a missing key is `none`. -/
structure OuterView where
  messages : List Message
  userId : Option Json
  sessionId : Option Json
  userRole : Option Json
  intent : Option Json

def buildInput (state : OuterView) : Except PyExc OuterSafetyInput := do
  let userQueryRaw := (state.messages.getLast?.map Message.content).getD (.str "")
  let session ← sessionContext (state.userId.getD (.str "")) (state.sessionId.getD (.str ""))
    (state.userRole.getD (.str "student"))
  return { session, intent := ← strField (state.intent.getD (.str "")),
           userQueryRaw := ← strField userQueryRaw,
           conversationHistory := state.messages.dropLast }

structure Tiers where
  checkRbac : OuterSafetyInput → Except PyExc TierResult
  checkStaticRules : OuterSafetyInput → Except PyExc TierResult
  checkInjection : OuterSafetyInput → Except PyExc TierResult

abbrev OuterUpdate := OuterSafetyResult × Bool

def outerShortCircuit (tierResults : List TierResult) (blocking : TierResult) : OuterUpdate :=
  ({ finalDecision := blocking.decision, shortCircuitedAt := some blocking.tier, tierResults,
     finalReasonCode := blocking.reasonCode, finalReasonHuman := blocking.reasonHuman },
   blocking.decision = .flagForReview)

def outerAllAllowed (tierResults : List TierResult) : OuterUpdate :=
  ({ finalDecision := .allow, shortCircuitedAt := none, tierResults,
     finalReasonCode := "all_tiers_passed", finalReasonHuman := "" }, false)

def outerSafetyCheck (tiers : Tiers) (state : OuterView) : Except PyExc OuterUpdate := do
  let input ← buildInput state
  let r1 ← tiers.checkRbac input
  if r1.decision ≠ .allow then return outerShortCircuit [r1] r1
  let r2 ← tiers.checkStaticRules input
  if r2.decision ≠ .allow then return outerShortCircuit [r1, r2] r2
  let r3 ← tiers.checkInjection input
  if r3.decision ≠ .allow then return outerShortCircuit [r1, r2, r3] r3
  return outerAllAllowed [r1, r2, r3]

end RealityAI.Model.Safety
