import RealityAI.Model.OuterSafety

/-!
# `safety/inner/`: the gate in front of the write tools

Latencies and the metadata of a layer's result are left out: no decision reads them.
-/

namespace RealityAI.Model.Safety
open Library Library.Regex Library.Regex.Re Python

/-! ## `schemas.py` -/

inductive InnerSafetyDecision where
  | allow | deny
  deriving DecidableEq, Repr

inductive InnerLayerName where
  | toolAuthorization | parameterPresence | parameterFormat | liveState
  deriving DecidableEq, Repr

structure LayerResult where
  layer : InnerLayerName
  decision : InnerSafetyDecision
  reasonCode : String
  reasonHuman : String
  deriving DecidableEq, Repr

structure InnerSafetyInput where
  session : SessionContext
  toolName : String
  toolArgs : Dict

structure AuditRecord where
  auditId : String
  timestampIso : String
  toolName : String
  argsKeys : List String
  userId : String
  sessionId : String
  userRole : String
  tenantId : Option String
  decision : InnerSafetyDecision
  shortCircuitedAt : Option InnerLayerName
  finalReasonCode : String
  executionAttempted : Bool
  executionSucceeded : Option Bool
  executionError : Json

structure InnerSafetyResult where
  finalDecision : InnerSafetyDecision
  shortCircuitedAt : Option InnerLayerName
  layerResults : List LayerResult
  finalReasonCode : String
  finalReasonHuman : String
  audit : AuditRecord

inductive ActionTool where
  | gradeUpdate | enrollmentModify | assignmentCreate
  deriving DecidableEq, Repr

/-- A call of a function of `ACTION_TOOLS`, with the arguments that the function gets. -/
inductive WriteCall where
  | gradeUpdate (studentId courseId assignmentId grade : String)
  | enrollmentModify (studentId courseId action : String)
  | assignmentCreate (courseId title dueDate description : String)
  deriving DecidableEq, Repr

namespace WriteCall

def tool : WriteCall → ActionTool
  | .gradeUpdate .. => .gradeUpdate
  | .enrollmentModify .. => .enrollmentModify
  | .assignmentCreate .. => .assignmentCreate

def args : WriteCall → Dict
  | .gradeUpdate studentId courseId assignmentId grade =>
      [("student_id", .str studentId), ("course_id", .str courseId),
        ("assignment_id", .str assignmentId), ("grade", .str grade)]
  | .enrollmentModify studentId courseId action =>
      [("student_id", .str studentId), ("course_id", .str courseId), ("action", .str action)]
  | .assignmentCreate courseId title dueDate description =>
      [("course_id", .str courseId), ("title", .str title), ("due_date", .str dueDate),
        ("description", .str description)]

end WriteCall

/-- What happens to the outside world in an attempt: a registered function is called, or a record
is handed to `persist_audit_record`. -/
inductive Event where
  | invoked (call : WriteCall)
  | persisted (record : AuditRecord)

/-! ## `audit.py` -/

structure Stamp where
  auditId : String
  timestampIso : String

def buildAuditRecord (stamp : Stamp) (input : InnerSafetyInput) (decision : InnerSafetyDecision)
    (shortCircuitedAt : Option InnerLayerName) (finalReasonCode : String) : AuditRecord where
  auditId := stamp.auditId
  timestampIso := stamp.timestampIso
  toolName := input.toolName
  argsKeys := sorted (Dict.keys input.toolArgs)
  userId := input.session.userId
  sessionId := input.session.sessionId
  userRole := input.session.userRole
  tenantId := input.session.tenantId
  decision := decision
  shortCircuitedAt := shortCircuitedAt
  finalReasonCode := finalReasonCode
  executionAttempted := false
  executionSucceeded := none
  executionError := .null

def updateAuditForExecution (record : AuditRecord) (succeeded : Bool) (error : Json) : AuditRecord :=
  { record with
    executionAttempted := true
    executionSucceeded := some succeeded
    executionError := error }

/-- The ids in `_PERSISTED_IDS` and the records that were written. -/
structure AuditSink where
  ids : List String
  records : List AuditRecord

def persistAuditRecord (sink : AuditSink) (record : AuditRecord) : AuditSink :=
  if record.auditId ∈ sink.ids then sink
  else ⟨record.auditId :: sink.ids, sink.records ++ [record]⟩

def AuditSink.receive (sink : AuditSink) : Event → AuditSink
  | .persisted record => persistAuditRecord sink record
  | .invoked _ => sink

/-! ## `tool_authorization.py` -/

structure RoleConfig where
  granted : List String
  denied : List String

/-- `config/tool_auth_matrix.yaml` -/
def roles : List (String × RoleConfig) :=
  [("student", ⟨["enrollment_modify"], ["grade_update", "assignment_create"]⟩),
   ("instructor", ⟨["grade_update", "enrollment_modify", "assignment_create"], []⟩),
   ("registrar", ⟨["grade_update", "enrollment_modify", "assignment_create"], []⟩)]

def checkToolAuthorization (input : InnerSafetyInput) : LayerResult :=
  let role := input.session.userRole
  let toolName := input.toolName
  match roles.lookup role with
  | none =>
      { layer := .toolAuthorization, decision := .deny, reasonCode := "unknown_role",
        reasonHuman := "Role '" ++ role ++ "' has no tool-authorization policy configured." }
  | some config =>
      if toolName ∈ config.granted then
        { layer := .toolAuthorization, decision := .allow, reasonCode := "role_grants_tool",
          reasonHuman := "" }
      else if toolName ∈ config.denied then
        { layer := .toolAuthorization, decision := .deny, reasonCode := "role_lacks_tool_grant",
          reasonHuman :=
            "Role '" ++ role ++ "' is not authorized to invoke tool '" ++ toolName ++ "'." }
      else
        { layer := .toolAuthorization, decision := .deny, reasonCode := "unknown_tool_for_role",
          reasonHuman :=
            "Role '" ++ role ++ "' has no policy for tool '" ++ toolName ++ "'; denying." }

/-! ## `parameter_validation.py` -/

def requiredArgs : List (String × List String) :=
  [("grade_update", ["student_id", "course_id", "assignment_id", "grade"]),
   ("enrollment_modify", ["student_id", "course_id", "action"]),
   ("assignment_create", ["course_id", "title", "due_date"])]

def missingArgs (required : List String) (args : Dict) : List String :=
  required.filter fun key => !Dict.has args key

def checkParameterPresence (rt : Runtime) (input : InnerSafetyInput) : LayerResult :=
  match requiredArgs.lookup input.toolName with
  | none =>
      { layer := .parameterPresence, decision := .deny,
        reasonCode := "unknown_tool_for_presence_check",
        reasonHuman :=
          "No parameter-presence policy configured for tool '" ++ input.toolName ++ "'." }
  | some required =>
      let missing := missingArgs required input.toolArgs
      if missing ≠ [] then
        { layer := .parameterPresence, decision := .deny, reasonCode := "missing_required_args",
          reasonHuman := "Tool '" ++ input.toolName ++ "' missing required args: " ++
            rt.repr (.arr ((sorted missing).map .str)) }
      else
        { layer := .parameterPresence, decision := .allow,
          reasonCode := "all_required_args_present", reasonHuman := "" }

def matchesLine (rt : Runtime) (r : Re) (s : String) : Bool :=
  -- `$` also matches before a final line break
  (r.run rt.tables s.toList).any fun found => found.2 = [] ∨ found.2 = ['\n']

def courseIdPattern : Re := .seq (.rep [.range 'A' 'Z'] 2 (some 4)) (.rep [.digit] 3 (some 4))

def gradePattern : Re := .seq (.cls [.range 'A' 'F']) (opt (.cls [.one '+', .one '-']))

def datePattern : Re :=
  seqs [.rep [.digit] 4 (some 4), one '-', .rep [.digit] 2 (some 2), one '-',
    .rep [.digit] 2 (some 2)]

def enrollmentActions : List String := ["add", "drop"]

def fieldErrors (args : Dict) (key : String) (accepts : Json → Bool) (error : Json → String) :
    List String :=
  match Dict.get? args key with
  | some v => if accepts v then [] else [error v]
  | none => []

def courseIdErrors (rt : Runtime) (args : Dict) : List String :=
  fieldErrors args "course_id" (fun v => matchesLine rt courseIdPattern (rt.str v)) fun v =>
    "course_id format invalid; expected e.g. 'CS101' or 'COMS4705', got " ++ rt.repr v

def validateGradeUpdateFormat (rt : Runtime) (args : Dict) : Except PyExc (List String) :=
  .ok (courseIdErrors rt args ++
    fieldErrors args "grade" (fun v => matchesLine rt gradePattern (rt.str v)) fun v =>
      "grade must be letter grade (A–F, optional +/-), got " ++ rt.repr v)

def validateEnrollmentFormat (rt : Runtime) (args : Dict) : Except PyExc (List String) := do
  let errors := courseIdErrors rt args
  match Dict.get? args "action" with
  | none => return errors
  | some action =>
      if ← action.inSet enrollmentActions then return errors
      else return errors ++ ["action must be 'add' or 'drop', got " ++ rt.repr action]

def validateAssignmentFormat (rt : Runtime) (args : Dict) : Except PyExc (List String) :=
  .ok (courseIdErrors rt args ++
    fieldErrors args "title" (fun v => rt.strip (rt.str v) ≠ "") (fun _ =>
      "title must be non-empty") ++
    fieldErrors args "due_date" (fun v => matchesLine rt datePattern (rt.str v)) fun v =>
      "due_date must be ISO date 'YYYY-MM-DD', got " ++ rt.repr v)

def formatValidators (rt : Runtime) : List (String × (Dict → Except PyExc (List String))) :=
  [("grade_update", validateGradeUpdateFormat rt),
   ("enrollment_modify", validateEnrollmentFormat rt),
   ("assignment_create", validateAssignmentFormat rt)]

def checkParameterFormat (rt : Runtime) (input : InnerSafetyInput) : Except PyExc LayerResult :=
  match (formatValidators rt).lookup input.toolName with
  | none => .ok
      { layer := .parameterFormat, decision := .deny, reasonCode := "unknown_tool_for_format_check",
        reasonHuman :=
          "No format-validation policy configured for tool '" ++ input.toolName ++ "'." }
  | some validator => do
      let errors ← validator input.toolArgs
      if errors ≠ [] then
        return { layer := .parameterFormat, decision := .deny, reasonCode := "invalid_arg_format",
                 reasonHuman := "; ".intercalate errors }
      else
        return { layer := .parameterFormat, decision := .allow,
                 reasonCode := "format_checks_passed", reasonHuman := "" }

/-! ## `live_state.py` -/

structure CourseState where
  instructorUserId : String
  currentEnrollment : Int
  capacity : Int
  gradeWindowOpen : Bool
  enrolledStudents : List String

abbrev Verdict := InnerSafetyDecision × String × String

/-- What the read of a course returns or raises; at the timeout it raises `TimeoutError`. -/
abbrev ReadCourse := Json → Except PyExc CourseState

def item (rt : Runtime) (args : Dict) (key : String) : Except PyExc Json :=
  match Dict.get? args key with
  | some v => .ok v
  | none => .error ⟨.keyError, rt.reprStr key⟩

def checkEnrollmentModify (rt : Runtime) (readCourseState : ReadCourse) (input : InnerSafetyInput) :
    Except PyExc Verdict := do
  let courseId ← item rt input.toolArgs "course_id"
  let studentId ← item rt input.toolArgs "student_id"
  let action ← item rt input.toolArgs "action"
  let callerId := input.session.userId
  if input.session.userRole = "student" ∧ studentId.isStr callerId = false then
    return (.deny, "student_can_only_self_modify_enrollment",
      "User " ++ callerId ++ " (role=student) cannot modify enrollment for " ++ rt.str studentId ++
        "; students may only modify their own enrollment record.")
  else
    let state ← readCourseState courseId
    if action.isStr "add" then
      if state.capacity ≤ state.currentEnrollment then
        return (.deny, "course_full",
          "Course " ++ rt.str courseId ++ " is at capacity (" ++ toString state.currentEnrollment ++
            "/" ++ toString state.capacity ++ "); cannot enroll " ++ rt.str studentId ++ ".")
      else return (.allow, "enrollment_capacity_ok", "")
    else if ← studentId.inSet state.enrolledStudents then
      return (.allow, "enrollment_record_exists", "")
    else
      return (.deny, "not_enrolled",
        "Student " ++ rt.str studentId ++ " is not enrolled in " ++ rt.str courseId ++
          "; cannot drop.")

def checkGradeUpdate (rt : Runtime) (readCourseState : ReadCourse) (input : InnerSafetyInput) :
    Except PyExc Verdict := do
  let courseId ← item rt input.toolArgs "course_id"
  let studentId ← item rt input.toolArgs "student_id"
  let state ← readCourseState courseId
  if state.gradeWindowOpen = false then
    return (.deny, "grade_window_closed",
      "Grade window for " ++ rt.str courseId ++ " is closed; updates require registrar override.")
  else if ← studentId.inSet state.enrolledStudents then
    return (.allow, "grade_update_preconditions_met", "")
  else
    return (.deny, "student_not_enrolled",
      "Student " ++ rt.str studentId ++ " is not enrolled in " ++ rt.str courseId ++
        "; cannot grade.")

def checkAssignmentCreate (rt : Runtime) (readCourseState : ReadCourse) (input : InnerSafetyInput) :
    Except PyExc Verdict := do
  let courseId ← item rt input.toolArgs "course_id"
  let callerId := input.session.userId
  let state ← readCourseState courseId
  if state.instructorUserId ≠ callerId then
    return (.deny, "not_course_instructor",
      "User " ++ callerId ++ " is not the instructor of " ++ rt.str courseId ++
        "; cannot create assignment.")
  else return (.allow, "course_ownership_confirmed", "")

def dispatch (rt : Runtime) (readCourseState : ReadCourse) (input : InnerSafetyInput) :
    Except PyExc Verdict :=
  if input.toolName = "enrollment_modify" then checkEnrollmentModify rt readCourseState input
  else if input.toolName = "grade_update" then checkGradeUpdate rt readCourseState input
  else if input.toolName = "assignment_create" then checkAssignmentCreate rt readCourseState input
  else .error ⟨.valueError, "no live-state handler for tool " ++ rt.reprStr input.toolName⟩

def liveStateFailure (input : InnerSafetyInput) (e : PyExc) : Verdict :=
  match e.cls with
  | .timeoutError => (.deny, "live_state_timeout",
      "World-state read timed out after 2.0s; cannot verify preconditions for " ++
        input.toolName ++ ".")
  | .keyError => (.deny, "course_not_found", e.text)
  -- a `ValidationError` is a `ValueError`
  | .valueError | .validationError => (.deny, "unknown_tool_for_live_state", e.text)
  | _ => (.deny, "live_state_unavailable",
      "World-state read failed for " ++ input.toolName ++ "; failing closed. Underlying error: " ++
        e.text)

def checkLiveState (rt : Runtime) (readCourseState : ReadCourse) (input : InnerSafetyInput) :
    LayerResult :=
  let verdict :=
    match dispatch rt readCourseState input with
    | .ok verdict => verdict
    | .error e => liveStateFailure input e
  { layer := .liveState, decision := verdict.1, reasonCode := verdict.2.1,
    reasonHuman := verdict.2.2 }

/-! ## `node.py` -/

def innerShortCircuit (stamp : Stamp) (input : InnerSafetyInput) (layerResults : List LayerResult)
    (blocking : LayerResult) : Eff PyExc Event InnerSafetyResult := do
  let audit := buildAuditRecord stamp input blocking.decision (some blocking.layer)
    blocking.reasonCode
  Eff.emit (.persisted audit)
  return { finalDecision := blocking.decision, shortCircuitedAt := some blocking.layer,
           layerResults, finalReasonCode := blocking.reasonCode,
           finalReasonHuman := blocking.reasonHuman, audit }

def innerAllAllowed (stamp : Stamp) (input : InnerSafetyInput) (layerResults : List LayerResult) :
    InnerSafetyResult where
  finalDecision := .allow
  shortCircuitedAt := none
  layerResults := layerResults
  finalReasonCode := "all_layers_passed"
  finalReasonHuman := ""
  audit := buildAuditRecord stamp input .allow none "all_layers_passed"

def innerSafetyCheck (rt : Runtime) (readCourseState : ReadCourse) (stamp : Stamp)
    (input : InnerSafetyInput) : Eff PyExc Event InnerSafetyResult := do
  let r1 := checkToolAuthorization input
  if r1.decision ≠ .allow then innerShortCircuit stamp input [r1] r1
  else
    let r2 := checkParameterPresence rt input
    if r2.decision ≠ .allow then innerShortCircuit stamp input [r1, r2] r2
    else
      let r3 ← Eff.lift (checkParameterFormat rt input)
      if r3.decision ≠ .allow then innerShortCircuit stamp input [r1, r2, r3] r3
      else
        let r4 := checkLiveState rt readCourseState input
        if r4.decision ≠ .allow then innerShortCircuit stamp input [r1, r2, r3, r4] r4
        else return innerAllAllowed stamp input [r1, r2, r3, r4]

end RealityAI.Model.Safety
