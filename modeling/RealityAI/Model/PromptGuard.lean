import RealityAI.Model.OuterTiers

/-!
# `safety/outer/prompt_guard.py` and `injection_guard.py` for any classifier

`Model.OuterTiers` takes a classifier that returns a `PromptGuardResult`; here it may return any
object. An attribute answers the same each time it is read, and what only goes into the metadata of
a verdict is a unit. Scores and thresholds are exact.
-/

namespace RealityAI.Model.PromptGuard
open Python Safety OuterTiers

inductive FloatValue where
  | nan
  | inf (neg : Bool)
  | finite (x : Rat)

def FloatValue.ofPyFloat (x : PyFloat) : FloatValue :=
  match x, x.value? with
  | .inf neg, _ => .inf neg
  | _, some value => .finite value
  | _, none => .nan

def FloatValue.atLeast (threshold : Rat) : FloatValue → Bool
  | .nan => false
  | .inf neg => !neg
  | .finite x => threshold ≤ x

/-- An `int` or a `bool`, a `float`, or any other object by its `__float__`, its order against a
float and its `__str__`. -/
inductive Score where
  | int (n : Int)
  | float (x : FloatValue)
  | object (toFloat : Except PyExc FloatValue) (atLeast : Rat → Except PyExc Bool)
      (str : Except PyExc Unit)

/-- `float(score)`; an integer overflows where rounding would reach 2 ^ 1024. -/
def Score.toFloat : Score → Except PyExc FloatValue
  | .int n =>
      if n.natAbs < 2 ^ 1024 - 2 ^ 970 then .ok (.finite n)
      else .error ⟨.other, "int too large to convert to float"⟩
  | .float x => .ok x
  | .object toFloat _ _ => toFloat

def Score.atLeast (threshold : Rat) : Score → Except PyExc Bool
  | .int n => .ok (threshold ≤ n)
  | .float x => .ok (x.atLeast threshold)
  | .object _ atLeast _ => atLeast threshold

def Score.str : Score → Except PyExc Unit
  | .object _ _ str => str
  | _ => .ok ()

/-- A label of the enumeration, or any other object by its attribute `value`. -/
inductive Label where
  | member (label : PromptGuardLabel)
  | object (value : Except PyExc Unit)

def Label.value : Label → Except PyExc Unit
  | .member _ => .ok ()
  | .object value => value

structure ResultObject where
  score : Except PyExc Score
  label : Except PyExc Label
  detail : Except PyExc Unit

structure Raised where
  cls : ExcClass
  str : Except PyExc Unit

/-- The classifier under `asyncio.wait_for`: past the time it fails with a `TimeoutError`. -/
structure PromptGuardClient (turn : Type) where
  classify : String → List turn → Except Raised ResultObject

def scoreWellFormed (score : Score) : Except PyExc Bool :=
  match score.toFloat with
  | .error e =>
      -- a `ValidationError` is a `ValueError`
      if e.cls = .typeError ∨ e.cls = .valueError ∨ e.cls = .validationError then .ok false
      else .error e
  | .ok (.finite s) => .ok (0 ≤ s ∧ s ≤ 1)
  | .ok _ => .ok false

/-- `_result_from_score` -/
def resultFromObject (result : ResultObject) : Except PyExc TierResult := do
  let score ← result.score
  let label ← result.label
  match label with
  | .member .injection =>
      if ← score.atLeast denyThreshold then
        result.detail
        return guardResult .deny "prompt_guard_injection_high_confidence"
          "Request matches known prompt-injection patterns with high confidence."
      if ← score.atLeast flagThreshold then
        result.detail
        return guardResult .flagForReview "prompt_guard_injection_uncertain"
          "Request shows possible injection signal; routing to review."
      return guardResult .allow "prompt_guard_benign" ""
  | label =>
      label.value
      return guardResult .allow "prompt_guard_benign" ""

def checkInjection {turn : Type} (promptGuard : PromptGuardClient turn) (userQueryRaw : String)
    (conversationHistory : List turn) : Except PyExc TierResult :=
  match promptGuard.classify userQueryRaw conversationHistory with
  | .error e =>
      if e.cls = .timeoutError then
        .ok (guardResult .flagForReview "prompt_guard_timeout"
          "Injection classifier timed out after 1.0s; routing to review.")
      else do
        e.str
        return guardResult .flagForReview "prompt_guard_exception"
          "Injection classifier call failed; routing to review."
  | .ok result => do
      let score ← result.score
      if ← scoreWellFormed score then
        resultFromObject result
      else
        score.str
        return guardResult .flagForReview "prompt_guard_malformed_result"
          "Injection classifier returned out-of-range score."

structure Patterns where
  delimiterSpoofing : String → Bool
  instructionOverride : String → Bool
  instructionOverrideChinese : String → Bool
  roleFlip : String → Bool
  roleFlipChinese : String → Bool
  goalHijack : String → Bool
  encodingSmuggle : String → Bool
  politeInjection : String → Bool

structure ScoredPattern where
  score : Rat
  search : String → Bool
  pattern : String

/-- `_PATTERNS`, with at least the first 60 characters of each expression. -/
def Patterns.compiled (patterns : Patterns) : List ScoredPattern :=
  [⟨1, patterns.delimiterSpoofing,
      "</?(system|user|assistant|instruction)>|<\\|(im_start|im_end|system|user)\\|>"⟩,
   ⟨95 / 100, patterns.instructionOverride,
      "\\b(ignore|disregard|forget|override|bypass)\\s+(previous|above|all|prior|earlier|"⟩,
   ⟨95 / 100, patterns.instructionOverrideChinese,
      "忽略(之前|以上|全部|先前)|无视(以上|之前|规则)|忘(记|掉)(之前|以上)|重新设定"⟩,
   ⟨9 / 10, patterns.roleFlip,
      "\\b(you are now|from now on you are|pretend\\s+(you|to be)|act as|roleplay as|act like)\\b"⟩,
   ⟨9 / 10, patterns.roleFlipChinese, "你现在是|从现在起你是|扮演|假装(你|是)"⟩,
   ⟨85 / 100, patterns.goalHijack,
      "\\byour\\s+(real|true|actual|secret)\\s+(goal|purpose|task|objective|instructions)\\b"⟩,
   ⟨7 / 10, patterns.encodingSmuggle,
      "\\b(decode|reverse|rot13|base64|hex)\\b.\x7b0,40\x7d\\b(this|the following|below|above)\\b"⟩,
   ⟨5 / 10, patterns.politeInjection, "\\b(kindly|please)\\s+(forget|ignore)\\b"⟩]

def historyDiscount : Rat := 8 / 10

def historyTurns : Nat := 3

/-- An entry of the history: a `str`, or an object with its attribute `content`, if it has one, and
its `__str__`. -/
inductive Turn where
  | text (s : String)
  | object (content : Option Json) (str : String)

/-- The text that the patterns search; they refuse a content that is not a `str`. -/
def Turn.content : Turn → Except PyExc String
  | .text s => .ok s
  | .object content str =>
      match (content.getD (.str "")).or (.str str) with
      | .str s => .ok s
      | _ => .error ⟨.typeError, "expected string or bytes-like object"⟩

def firstChars (count : Nat) (text : String) : String := String.ofList (text.toList.take count)

structure Best where
  maxScore : Rat
  matched : String

def scanText (compiled : List ScoredPattern) (weigh : Rat → Rat) (name : String → String)
    (text : String) (best : Best) : Best :=
  compiled.foldl (fun best pat =>
    if pat.search text ∧ best.maxScore < weigh pat.score then ⟨weigh pat.score, name pat.pattern⟩
    else best) best

def scanQuery (patterns : Patterns) (text : String) : Best :=
  scanText patterns.compiled id (firstChars 60) text ⟨0, ""⟩

def scanTurn (patterns : Patterns) (best : Best) (msg : Turn) : Except PyExc Best := do
  let content ← msg.content
  return scanText patterns.compiled (· * historyDiscount)
    (fun pattern => "history:" ++ firstChars 50 pattern) content best

def recent {turn : Type} (history : List turn) : List turn :=
  history.drop (history.length - historyTurns)

structure HeuristicResult where
  label : PromptGuardLabel
  score : Rat
  detail : String

def classify (patterns : Patterns) (text : String) (history : List Turn) :
    Except PyExc HeuristicResult := do
  let best ← (recent history).foldlM (scanTurn patterns) (scanQuery patterns text)
  return if 5 / 10 ≤ best.maxScore then ⟨.injection, best.maxScore, best.matched⟩
    else ⟨.benign, 1 - best.maxScore, best.matched⟩

def HeuristicResult.object (result : HeuristicResult) : ResultObject where
  score := .ok (.float (.finite result.score))
  label := .ok (.member result.label)
  detail := .ok ()

def heuristicPromptGuardClient (patterns : Patterns) : PromptGuardClient Turn where
  classify text history :=
    match classify patterns text history with
    | .ok result => .ok result.object
    | .error e => .error ⟨e.cls, .ok ()⟩

end RealityAI.Model.PromptGuard
