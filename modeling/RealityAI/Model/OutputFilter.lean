import RealityAI.Library.Regex.Substitution
import RealityAI.Python.Value

/-!
# `safety/output_filter.py`
-/

namespace RealityAI.Model.OutputFilter
open Library.Regex Library.Regex.Re Python

def redactionToken : String := "[REDACTED]"

inductive OutputFinding where
  | markerLeak | reasonCode | thresholdName | secretPattern | internalArchitectureTerm
  deriving DecidableEq, Repr

structure OutputFilterFindingDetail where
  category : OutputFinding
  matchHash : String
  deriving DecidableEq, Repr

structure OutputFilterResult where
  findings : List OutputFilterFindingDetail
  redactedText : String
  redactionsCount : Nat
  originalLength : Nat
  redactedLength : Nat
  deriving DecidableEq, Repr

/-! ## Character classes -/

def hex : CharClass := [.range '0' '9', .range 'a' 'f', .range 'A' 'F']

def upper : CharClass := [.range 'A' 'Z']

def numeral : CharClass := [.range '0' '9']

def letters : CharClass := [.range 'A' 'Z', .range 'a' 'z']

def alnum : CharClass := letters ++ numeral

def blank : CharClass := [.space]

def digit : CharClass := [.digit]

def gap : Re := .rep [.one '-', .space] 0 (some 1)

/-! ## The registry -/

def markerPattern : Pattern where
  core := seqs [one '[', anyOf [str "BEGIN", str "END"], str "-DATA:", .rep hex 1 none, one ']']
  bounded := false
  consumes := by decide

def reasonCodeTerms : List String :=
  ["role_grants_action", "role_lacks_action_grant",
   "unknown_role", "unknown_intent_for_role",
   "prompt_injection_lexical", "sensitive_info_request",
   "bulk_modify_pattern_detected", "intent_action_lexical_mismatch",
   "bulk_query_other_users", "no_static_rule_matched",
   "prompt_guard_injection_high_confidence",
   "prompt_guard_injection_uncertain", "prompt_guard_benign",
   "prompt_guard_timeout", "prompt_guard_exception",
   "prompt_guard_malformed_result",
   "role_grants_tool", "role_lacks_tool_grant", "unknown_tool_for_role",
   "all_required_args_present", "missing_required_args",
   "unknown_tool_for_presence_check",
   "format_checks_passed", "invalid_arg_format",
   "enrollment_capacity_ok", "course_full",
   "enrollment_record_exists", "not_enrolled",
   "grade_window_closed", "student_not_enrolled",
   "grade_update_preconditions_met",
   "course_ownership_confirmed", "not_course_instructor",
   "live_state_timeout", "live_state_unavailable",
   "course_not_found", "unknown_tool_for_live_state",
   "student_can_only_self_modify_enrollment",
   "all_layers_passed", "all_tiers_passed"]

def reasonCodePattern : Pattern where
  core := anyOf (reasonCodeTerms.map str)
  bounded := true
  consumes := by decide +kernel

def thresholdPatterns : List Pattern :=
  [{ core := anyOf [str "DENY_THRESHOLD", str "FLAG_THRESHOLD",
       str "CONFIDENCE_FALLBACK_THRESHOLD", str "MAX_HISTORY_TURNS", str "DEFAULT_TIMEOUT_S",
       str "NONCE_BYTES", str "HISTORY_DISCOUNT", str "HISTORY_TURNS", str "MAX_LENGTH"]
     bounded := true, consumes := by decide },
   { core := seqs [strIgnoreCase "confidence", .rep blank 0 none,
       .rep [.one '<', .one '>', .one '≤', .one '≥', .one '='] 1 none, .rep blank 0 none,
       .rep [.one '0'] 0 (some 1), one '.', .rep digit 1 none]
     bounded := true, consumes := by decide }]

def secretPatterns : List Pattern :=
  [{ core := seqs [str "sk-", opt (str "ant-"), .rep (alnum ++ [.one '_', .one '-']) 20 none]
     bounded := true, consumes := by decide },
   { core := seqs [str "xox",
       .cls [.one 'a', .one 'b', .one 'p', .one 'o', .one 's', .one 'r'], one '-',
       .rep (alnum ++ [.one '-']) 10 none]
     bounded := true, consumes := by decide },
   { core := seqs [str "ghp_", .rep alnum 36 (some 36)]
     bounded := true, consumes := by decide },
   { core := seqs [str "github_pat_", .rep (alnum ++ [.one '_']) 60 none]
     bounded := true, consumes := by decide },
   { core := seqs [anyOf [str "AKIA", str "ASIA"], .rep (numeral ++ upper) 16 (some 16)]
     bounded := true, consumes := by decide },
   { core := seqs [str "Bearer", .rep blank 1 none,
       .rep (alnum ++ [.one '.', .one '_', .one '-']) 30 none]
     bounded := true, consumes := by decide },
   { core := seqs [str "eyJ", .rep (alnum ++ [.one '_', .one '-']) 10 none, one '.',
       .rep (alnum ++ [.one '_', .one '-']) 10 none, one '.',
       .rep (alnum ++ [.one '_', .one '-']) 10 none]
     bounded := true, consumes := by decide }]

def archPatterns : List Pattern :=
  [{ core := seqs [strIgnoreCase "ADR", gap, .rep digit 3 (some 3),
       opt (seqs [gap, strIgnoreCase "D", .rep digit 1 none])]
     bounded := true, consumes := by decide },
   { core := seqs [strIgnoreCase "D", .rep digit 1 none, .rep blank 1 none,
       strIgnoreCase "invariant"]
     bounded := true, consumes := by decide },
   { core := seqs [str "Phase", .rep blank 1 none, .rep digit 1 none,
       opt (seqs [one '.', .rep digit 1 none])]
     bounded := true, consumes := by decide },
   { core := strIgnoreCase "spotlighting"
     bounded := true, consumes := by decide },
   { core := seqs [str "outer_safety_", anyOf [str "check", str "node", str "result"]]
     bounded := true, consumes := by decide },
   { core := seqs [str "inner_safety_", anyOf [str "check", str "node", str "result"]]
     bounded := true, consumes := by decide },
   { core := seqs [str "safety/", anyOf [str "outer", str "inner"], one '/',
       .rep (letters ++ [.one '_', .one '/']) 0 none, str ".py"]
     bounded := true, consumes := by decide },
   { core := seqs [strIgnoreCase "Tier", .rep blank 0 none, .cls [.range '1' '3'], .rep blank 1 none,
       anyOf [strIgnoreCase "RBAC", strIgnoreCase "static", strIgnoreCase "injection"]]
     bounded := true, consumes := by decide },
   { core := seqs [strIgnoreCase "Layer", .rep blank 0 none, .cls [.range '1' '4'],
       .rep blank 1 none,
       anyOf [strIgnoreCase "tool", strIgnoreCase "parameter", strIgnoreCase "live"]]
     bounded := true, consumes := by decide }]

def registry : List (OutputFinding × List Pattern) :=
  [(.markerLeak, [markerPattern]), (.reasonCode, [reasonCodePattern]),
   (.thresholdName, thresholdPatterns), (.secretPattern, secretPatterns),
   (.internalArchitectureTerm, archPatterns)]

/-! ## The filter -/

def findingDetail (rt : Runtime) (category : OutputFinding) (w : List Char) :
    OutputFilterFindingDetail :=
  ⟨category, String.ofList ((rt.sha256Hex (String.ofList w)).toList.take 12)⟩

def applyPattern (rt : Runtime) (category : OutputFinding)
    (acc : List OutputFilterFindingDetail × List Char) (p : Pattern) :
    List OutputFilterFindingDetail × List Char :=
  (acc.1 ++ (p.findAll rt.tables acc.2).map (findingDetail rt category),
   p.sub rt.tables redactionToken.toList acc.2)

def filterResponse (rt : Runtime) (text : String) : OutputFilterResult :=
  if text = "" then ⟨[], "", 0, 0, 0⟩
  else
    let (findings, redacted) := registry.foldl
      (fun acc entry => entry.2.foldl (applyPattern rt entry.1) acc) ([], text.toList)
    { findings, redactedText := String.ofList redacted, redactionsCount := findings.length,
      originalLength := text.toList.length, redactedLength := redacted.length }

end RealityAI.Model.OutputFilter
