import RealityAI.Library.Regex.Substitution
import RealityAI.Model.OuterSafety
import RealityAI.Python.Text

/-!
# `safety/outer/rbac.py`, `static_rules.py` and `injection_guard.py`

The three tiers with the matrix and the rules of `safety/outer/config`. The classifier is a
parameter, and so is its failure to answer in time.
-/

namespace RealityAI.Model.OuterTiers
open Library.Regex Library.Regex.Re Python Safety

/-! ## Tier 1 -/

structure RoleConfig where
  allowed : List String
  denied : List String
  deriving DecidableEq, Repr

def outerRoles : List (String × RoleConfig) :=
  [("student", ⟨["query", "planning", "action"], []⟩),
   ("instructor", ⟨["query", "planning", "action"], []⟩)]

def rbacResult (decision : SafetyDecision) (reasonCode reasonHuman : String) : TierResult :=
  { tier := .rbac, decision, reasonCode, reasonHuman }

def checkRbac (input : OuterSafetyInput) : TierResult :=
  let role := input.session.userRole
  let intent := input.intent
  match outerRoles.lookup role with
  | none =>
      rbacResult .deny "unknown_role" ("Role '" ++ role ++ "' has no policy configured.")
  | some config =>
      if intent ∈ config.allowed then rbacResult .allow "role_grants_action" ""
      else if intent ∈ config.denied then
        rbacResult .deny "role_lacks_action_grant"
          ("Role '" ++ role ++ "' is not authorized for action category '" ++ intent ++ "'.")
      else
        rbacResult .flagForReview "unknown_intent_for_role"
          ("Role '" ++ role ++ "' has no policy for intent '" ++ intent ++
            "'; routing to review.")

/-! ## Tier 2 -/

structure StaticRule where
  decision : SafetyDecision
  reasonCode : String
  reasonHuman : String
  requiredIntent : Option String := none
  queryPattern : Option Pattern := none
  queryKeywords : List String := []

def injectionPattern : Pattern where
  core := anyOf
    [seqs [strIgnoreCase "ignore ", anyOf (["previous", "above", "all", "prior"].map strIgnoreCase)],
     seqs [strIgnoreCase "disregard ", anyOf (["previous", "above", "all"].map strIgnoreCase)],
     strIgnoreCase "system override",
     seqs [strIgnoreCase "forget ", anyOf (["all", "previous", "above"].map strIgnoreCase)]]
  bounded := false
  consumes := by decide

def denyRules : List StaticRule :=
  [{ decision := .deny
     reasonCode := "prompt_injection_lexical"
     reasonHuman := "Request contains lexical patterns associated with prompt injection."
     queryPattern := some injectionPattern },
   { decision := .deny
     reasonCode := "sensitive_info_request"
     reasonHuman := "Request appears to ask for sensitive personal information."
     queryKeywords := ["password", "ssn", "credit card", "social security"] },
   { decision := .deny
     reasonCode := "bulk_modify_pattern_detected"
     reasonHuman :=
       "Bulk modifications must go through the registrar workflow, not the agent."
     requiredIntent := some "action"
     queryKeywords := ["all students", "every student", "entire class", "bulk"] }]

def flagRules : List StaticRule :=
  [{ decision := .flagForReview
     reasonCode := "intent_action_lexical_mismatch"
     reasonHuman :=
       "Query was classified as read-only but contains action verbs; " ++
         "route to review before continuing."
     requiredIntent := some "query"
     queryKeywords := ["update", "change", "delete", "modify", "enroll"] },
   { decision := .flagForReview
     reasonCode := "bulk_query_other_users"
     reasonHuman := "Query references multiple users; review before disclosing data."
     requiredIntent := some "query"
     queryKeywords := ["all students", "every student", "all users", "other students"] }]

def staticRules : List StaticRule := denyRules ++ flagRules

def StaticRule.matches (it : Interpreter) (rule : StaticRule) (intent query : String) : Bool :=
  rule.requiredIntent.all (intent == ·) &&
    rule.queryPattern.all (fun p => p.findAll it.tables query.toList != []) &&
    (rule.queryKeywords.isEmpty ||
      rule.queryKeywords.any fun keyword => contains (it.lower query) (it.lower keyword))

def checkStaticRules (it : Interpreter) (input : OuterSafetyInput) : TierResult :=
  match staticRules.find? (·.matches it input.intent input.userQueryRaw) with
  | some rule =>
      { tier := .staticRules, decision := rule.decision, reasonCode := rule.reasonCode,
        reasonHuman := rule.reasonHuman }
  | none =>
      { tier := .staticRules, decision := .allow, reasonCode := "no_static_rule_matched",
        reasonHuman := "" }

/-! ## Tier 3 -/

inductive PromptGuardLabel where
  | benign | injection
  deriving DecidableEq, Repr

structure PromptGuardResult where
  label : PromptGuardLabel
  score : PyFloat
  deriving DecidableEq, Repr

/-- The classifier under `asyncio.wait_for`: past the time it fails with a `TimeoutError`. -/
structure PromptGuard where
  classify : String → List Message → Except PyExc PromptGuardResult

def denyThreshold : Rat := 9 / 10

def flagThreshold : Rat := 5 / 10

def guardResult (decision : SafetyDecision) (reasonCode reasonHuman : String) : TierResult :=
  { tier := .injectionGuard, decision, reasonCode, reasonHuman }

def resultFromScore (label : PromptGuardLabel) (score : Rat) : TierResult :=
  if label = .injection ∧ denyThreshold ≤ score then
    guardResult .deny "prompt_guard_injection_high_confidence"
      "Request matches known prompt-injection patterns with high confidence."
  else if label = .injection ∧ flagThreshold ≤ score then
    guardResult .flagForReview "prompt_guard_injection_uncertain"
      "Request shows possible injection signal; routing to review."
  else guardResult .allow "prompt_guard_benign" ""

def wellFormedScore (score : PyFloat) : Option Rat :=
  score.value?.filter fun s => 0 ≤ s ∧ s ≤ 1

def checkInjection (guard : PromptGuard) (input : OuterSafetyInput) : TierResult :=
  match guard.classify input.userQueryRaw input.conversationHistory with
  | .error e =>
      if e.cls = .timeoutError then
        guardResult .flagForReview "prompt_guard_timeout"
          "Injection classifier timed out after 1.0s; routing to review."
      else
        guardResult .flagForReview "prompt_guard_exception"
          "Injection classifier call failed; routing to review."
  | .ok result =>
      match wellFormedScore result.score with
      | none =>
          guardResult .flagForReview "prompt_guard_malformed_result"
            "Injection classifier returned out-of-range score."
      | some score => resultFromScore result.label score

def outerTiers (it : Interpreter) (guard : PromptGuard) : Tiers where
  checkRbac input := .ok (checkRbac input)
  checkStaticRules input := .ok (checkStaticRules it input)
  checkInjection input := .ok (checkInjection guard input)

end RealityAI.Model.OuterTiers
