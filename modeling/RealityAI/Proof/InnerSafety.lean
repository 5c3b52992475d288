import RealityAI.Model.ActionAgent

namespace RealityAI.Proof.InnerSafety
open Library Python Model.Safety Model.ActionAgent

/-! ## Values -/

theorem isStr_iff {s : String} {v : Json} : v.isStr s = true ↔ v = .str s := by
  cases v with
  | str t => simp [Json.isStr]
  | _ => simp [Json.isStr]

theorem inSet_ok {v : Json} {members : List String} (inside : v.inSet members = .ok true) :
    ∃ s ∈ members, v = .str s := by
  unfold Json.inSet at inside
  split at inside
  · obtain ⟨s, mem, same⟩ := List.any_eq_true.mp (Except.ok.inj inside)
    exact ⟨s, mem, isStr_iff.mp same⟩
  · cases inside

theorem item_ok {rt : Runtime} {args : Dict} {key : String} {v : Json}
    (found : item rt args key = .ok v) : Dict.get args key = v := by
  unfold item at found
  split at found
  · rename_i v' here
    rw [Dict.get, here]
    exact Except.ok.inj found
  · cases found

theorem bind_ok {ε α β : Type} {x : Except ε α} {f : α → Except ε β} {b : β} :
    x >>= f = .ok b ↔ ∃ a, x = .ok a ∧ f a = .ok b := by
  cases x with
  | ok a => exact ⟨fun h => ⟨a, rfl, h⟩, fun ⟨a', same, h⟩ => Except.ok.inj same ▸ h⟩
  | error e => exact ⟨fun h => (by cases h), fun ⟨a', same, _⟩ => by cases same⟩

def FalsyOrText (v : Json) : Prop := v.truthy = true → ∃ s, v = .str s

/-! ## The whole gate -/

section
variable (rt : Runtime) (readCourseState : ReadCourse) (stamp : Stamp) (input : InnerSafetyInput)

inductive FirstDenial : LayerResult → Prop
  | authorization : (checkToolAuthorization input).decision = .deny →
      FirstDenial (checkToolAuthorization input)
  | presence : (checkToolAuthorization input).decision = .allow →
      (checkParameterPresence rt input).decision = .deny →
      FirstDenial (checkParameterPresence rt input)
  | format {r : LayerResult} : (checkToolAuthorization input).decision = .allow →
      (checkParameterPresence rt input).decision = .allow →
      checkParameterFormat rt input = .ok r → r.decision = .deny → FirstDenial r
  | liveState {r : LayerResult} : (checkToolAuthorization input).decision = .allow →
      (checkParameterPresence rt input).decision = .allow →
      checkParameterFormat rt input = .ok r → r.decision = .allow →
      (checkLiveState rt readCourseState input).decision = .deny →
      FirstDenial (checkLiveState rt readCourseState input)

structure AllAllowed : Prop where
  authorization : (checkToolAuthorization input).decision = .allow
  presence : (checkParameterPresence rt input).decision = .allow
  format : ∃ r, checkParameterFormat rt input = .ok r ∧ r.decision = .allow
  liveState : (checkLiveState rt readCourseState input).decision = .allow

structure FormatRaises (e : PyExc) : Prop where
  authorization : (checkToolAuthorization input).decision = .allow
  presence : (checkParameterPresence rt input).decision = .allow
  raised : checkParameterFormat rt input = .error e

def denial (blocking : LayerResult) (layerResults : List LayerResult) : InnerSafetyResult where
  finalDecision := .deny
  shortCircuitedAt := some blocking.layer
  layerResults := layerResults
  finalReasonCode := blocking.reasonCode
  finalReasonHuman := blocking.reasonHuman
  audit := buildAuditRecord stamp input .deny (some blocking.layer) blocking.reasonCode

inductive GateRun : Eff PyExc Event InnerSafetyResult → Prop
  | raised {e : PyExc} : FormatRaises rt input e → GateRun ⟨[], .error e⟩
  | denied {blocking : LayerResult} (layerResults : List LayerResult) :
      FirstDenial rt readCourseState input blocking →
      GateRun ⟨[.persisted (denial stamp input blocking layerResults).audit],
        .ok (denial stamp input blocking layerResults)⟩
  | allowed (layerResults : List LayerResult) : AllAllowed rt readCourseState input →
      GateRun ⟨[], .ok (innerAllAllowed stamp input layerResults)⟩

theorem decision_deny {r : LayerResult} (other : r.decision ≠ .allow) : r.decision = .deny := by
  cases decision : r.decision with
  | allow => exact absurd decision other
  | deny => rfl

theorem innerShortCircuit_eq {blocking : LayerResult} (layerResults : List LayerResult)
    (deny : blocking.decision = .deny) :
    innerShortCircuit stamp input layerResults blocking =
      ⟨[.persisted (denial stamp input blocking layerResults).audit],
        .ok (denial stamp input blocking layerResults)⟩ := by
  unfold innerShortCircuit denial
  rw [deny]
  rfl

theorem gateRun : GateRun rt readCourseState stamp input
    (innerSafetyCheck rt readCourseState stamp input) := by
  unfold innerSafetyCheck
  by_cases authorization : (checkToolAuthorization input).decision = .allow
  case neg =>
    rw [if_pos authorization, innerShortCircuit_eq _ _ _ (decision_deny authorization)]
    exact .denied _ (.authorization (decision_deny authorization))
  rw [if_neg (not_not.mpr authorization)]
  by_cases presence : (checkParameterPresence rt input).decision = .allow
  case neg =>
    rw [if_pos presence, innerShortCircuit_eq _ _ _ (decision_deny presence)]
    exact .denied _ (.presence authorization (decision_deny presence))
  rw [if_neg (not_not.mpr presence)]
  cases found : checkParameterFormat rt input with
  | error e => exact .raised ⟨authorization, presence, found⟩
  | ok r =>
      show GateRun rt readCourseState stamp input (pure r >>= _)
      rw [Eff.pure_bind']
      by_cases format : r.decision = .allow
      case neg =>
        rw [if_pos format, innerShortCircuit_eq _ _ _ (decision_deny format)]
        exact .denied _ (.format authorization presence found (decision_deny format))
      rw [if_neg (not_not.mpr format)]
      by_cases liveState : (checkLiveState rt readCourseState input).decision = .allow
      case neg =>
        rw [if_pos liveState, innerShortCircuit_eq _ _ _ (decision_deny liveState)]
        exact .denied _ (.liveState authorization presence found format (decision_deny liveState))
      rw [if_neg (not_not.mpr liveState)]
      exact .allowed _ ⟨authorization, presence, ⟨r, found, format⟩, liveState⟩

end

section
variable {rt : Runtime} {readCourseState : ReadCourse} {input : InnerSafetyInput}
  {r r' : LayerResult}

theorem FirstDenial.denies (first : FirstDenial rt readCourseState input r) :
    r.decision = .deny := by
  cases first with
  | authorization deny => exact deny
  | presence _ deny => exact deny
  | format _ _ _ deny => exact deny
  | liveState _ _ _ _ deny => exact deny

theorem FirstDenial.not_allowed (first : FirstDenial rt readCourseState input r) :
    ¬ AllAllowed rt readCourseState input := by
  intro allowed
  obtain ⟨r₃, found, allow⟩ := allowed.format
  cases first with
  | authorization deny => cases deny.symm.trans allowed.authorization
  | presence _ deny => cases deny.symm.trans allowed.presence
  | format _ _ found' deny =>
      cases found.symm.trans found'
      cases deny.symm.trans allow
  | liveState _ _ _ _ deny => cases deny.symm.trans allowed.liveState

theorem FirstDenial.not_raises (first : FirstDenial rt readCourseState input r) {e : PyExc} :
    ¬ FormatRaises rt input e := by
  intro raises
  cases first with
  | authorization deny => cases deny.symm.trans raises.authorization
  | presence _ deny => cases deny.symm.trans raises.presence
  | format _ _ found _ => cases found.symm.trans raises.raised
  | liveState _ _ found _ _ => cases found.symm.trans raises.raised

theorem AllAllowed.not_raises (allowed : AllAllowed rt readCourseState input) {e : PyExc} :
    ¬ FormatRaises rt input e := by
  intro raises
  obtain ⟨r₃, found, -⟩ := allowed.format
  cases found.symm.trans raises.raised

theorem FirstDenial.unique (first : FirstDenial rt readCourseState input r)
    (other : FirstDenial rt readCourseState input r') : r = r' := by
  cases first with
  | authorization deny =>
      cases other with
      | authorization _ => rfl
      | _ => simp_all
  | presence allow deny =>
      cases other with
      | presence _ _ => rfl
      | _ => simp_all
  | format allow allow' found deny =>
      cases other with
      | format _ _ found' _ => exact Except.ok.inj (found.symm.trans found')
      | _ => simp_all
  | liveState allow allow' found allow'' deny =>
      cases other with
      | liveState _ _ _ _ _ => rfl
      | _ => simp_all

theorem verdict_not_raises {stamp : Stamp} {result : InnerSafetyResult}
    (verdict : (innerSafetyCheck rt readCourseState stamp input).out = .ok result) {e : PyExc} :
    ¬ FormatRaises rt input e := by
  have run := gateRun rt readCourseState stamp input
  generalize innerSafetyCheck rt readCourseState stamp input = gate at run verdict
  cases run with
  | raised => cases verdict
  | denied _ first => exact first.not_raises
  | allowed _ allowed => exact allowed.not_raises

end

/-! ## What each layer has checked -/

section
variable {rt : Runtime} {readCourseState : ReadCourse} {input : InnerSafetyInput}

theorem authorization_granted (allow : (checkToolAuthorization input).decision = .allow) :
    ∃ config, roles.lookup input.session.userRole = some config ∧
      input.toolName ∈ config.granted := by
  unfold checkToolAuthorization at allow
  dsimp only at allow
  split at allow
  · cases allow
  · rename_i config known
    refine ⟨config, known, ?_⟩
    by_contra other
    rw [if_neg other] at allow
    split at allow <;> cases allow

theorem presence_required (allow : (checkParameterPresence rt input).decision = .allow) :
    ∃ required, requiredArgs.lookup input.toolName = some required ∧
      ∀ key ∈ required, Dict.has input.toolArgs key = true := by
  unfold checkParameterPresence at allow
  split at allow
  · cases allow
  · rename_i required known
    refine ⟨required, known, ?_⟩
    by_cases missing : missingArgs required input.toolArgs = []
    · intro key mem
      have kept := List.filter_eq_nil_iff.mp missing key mem
      simpa using kept
    · simp only [ne_eq, missing, not_false_eq_true, if_true] at allow
      cases allow

theorem liveStateFailure_denies (e : PyExc) : (liveStateFailure input e).1 = .deny := by
  unfold liveStateFailure
  split <;> rfl

theorem liveState_dispatch (allow : (checkLiveState rt readCourseState input).decision = .allow) :
    ∃ reason, dispatch rt readCourseState input = .ok (.allow, reason) := by
  unfold checkLiveState at allow
  dsimp only at allow
  split at allow
  · rename_i verdict found
    exact ⟨verdict.2, by rw [found, ← allow]⟩
  · rename_i e _
    rw [liveStateFailure_denies] at allow
    cases allow

theorem enrollmentModify_allows {reason : String × String}
    (allow : checkEnrollmentModify rt readCourseState input = .ok (.allow, reason)) :
    (input.session.userRole = "student" →
      Dict.get input.toolArgs "student_id" = .str input.session.userId) ∧
    ∃ state, readCourseState (Dict.get input.toolArgs "course_id") = .ok state ∧
      (Dict.get input.toolArgs "action" = .str "add" →
        state.currentEnrollment < state.capacity) ∧
      (Dict.get input.toolArgs "action" = .str "drop" →
        ∃ student ∈ state.enrolledStudents,
          Dict.get input.toolArgs "student_id" = .str student) := by
  unfold checkEnrollmentModify at allow
  obtain ⟨courseId, course, allow⟩ := bind_ok.mp allow
  obtain ⟨studentId, student, allow⟩ := bind_ok.mp allow
  obtain ⟨action, act, allow⟩ := bind_ok.mp allow
  rw [item_ok course, item_ok student, item_ok act]
  dsimp only at allow
  split at allow
  · cases allow
  rename_i own
  obtain ⟨state, found, allow⟩ := bind_ok.mp allow
  refine ⟨fun role => ?_, state, found, ?_⟩
  · rw [← isStr_iff, ← Bool.not_eq_false]
    exact fun other => own ⟨role, other⟩
  · split at allow
    · rename_i add
      rw [isStr_iff] at add
      split at allow
      · cases allow
      · rename_i space
        refine ⟨fun _ => Int.not_le.mp space, fun drop => ?_⟩
        rw [add] at drop
        exact absurd (Json.str.inj drop) (by decide)
    · rename_i other
      refine ⟨fun add => absurd (isStr_iff.mpr add) other, fun _ => ?_⟩
      obtain ⟨enrolled, inside, allow⟩ := bind_ok.mp allow
      cases enrolled with
      | true => exact inSet_ok inside
      | false => cases allow

theorem gradeUpdate_allows {reason : String × String}
    (allow : checkGradeUpdate rt readCourseState input = .ok (.allow, reason)) :
    ∃ state, readCourseState (Dict.get input.toolArgs "course_id") = .ok state ∧
      state.gradeWindowOpen = true ∧
      ∃ student ∈ state.enrolledStudents, Dict.get input.toolArgs "student_id" = .str student := by
  unfold checkGradeUpdate at allow
  obtain ⟨courseId, course, allow⟩ := bind_ok.mp allow
  obtain ⟨studentId, student, allow⟩ := bind_ok.mp allow
  obtain ⟨state, found, allow⟩ := bind_ok.mp allow
  rw [item_ok course, item_ok student]
  refine ⟨state, found, ?_⟩
  split at allow
  · cases allow
  · rename_i window
    obtain ⟨enrolled, inside, allow⟩ := bind_ok.mp allow
    cases enrolled with
    | true => exact ⟨Bool.not_eq_false _ ▸ window, inSet_ok inside⟩
    | false => cases allow

theorem assignmentCreate_allows {reason : String × String}
    (allow : checkAssignmentCreate rt readCourseState input = .ok (.allow, reason)) :
    ∃ state, readCourseState (Dict.get input.toolArgs "course_id") = .ok state ∧
      state.instructorUserId = input.session.userId := by
  unfold checkAssignmentCreate at allow
  obtain ⟨courseId, course, allow⟩ := bind_ok.mp allow
  obtain ⟨state, found, allow⟩ := bind_ok.mp allow
  rw [item_ok course]
  refine ⟨state, found, ?_⟩
  by_contra other
  rw [if_pos other] at allow
  cases allow

end

/-! ## The permission behind an invocation -/

def toolName : ActionTool → String
  | .gradeUpdate => "grade_update"
  | .enrollmentModify => "enrollment_modify"
  | .assignmentCreate => "assignment_create"

theorem toolName_inj {tool tool' : ActionTool} (same : toolName tool = toolName tool') :
    tool = tool' := by
  cases tool <;> cases tool' <;> first | rfl | exact absurd same (by decide)

theorem lookup_actionTools {name : String} {tool : ActionTool}
    (found : actionTools.lookup name = some tool) : name = toolName tool := by
  unfold actionTools at found
  simp only [List.lookup_cons, List.lookup_nil] at found
  split at found
  · rename_i same
    cases found
    exact beq_iff_eq.mp same
  split at found
  · rename_i same
    cases found
    exact beq_iff_eq.mp same
  split at found
  · rename_i same
    cases found
    exact beq_iff_eq.mp same
  · cases found

def Precondition (userId : String) (args : Dict) (state : CourseState) : ActionTool → Prop
  | .enrollmentModify =>
      (Dict.get args "action" = .str "add" → state.currentEnrollment < state.capacity) ∧
      (Dict.get args "action" = .str "drop" →
        ∃ student ∈ state.enrolledStudents, Dict.get args "student_id" = .str student)
  | .gradeUpdate => state.gradeWindowOpen = true ∧
      ∃ student ∈ state.enrolledStudents, Dict.get args "student_id" = .str student
  | .assignmentCreate => state.instructorUserId = userId

/-- Everything the gate has checked about a write. -/
structure Permitted (readCourseState : ReadCourse) (role userId : String) (tool : ActionTool)
    (args : Dict) : Prop where
  granted : ∃ config, roles.lookup role = some config ∧ toolName tool ∈ config.granted
  present : ∃ required, requiredArgs.lookup (toolName tool) = some required ∧
    ∀ key ∈ required, Dict.has args key = true
  own : role = "student" →
    tool = .enrollmentModify ∧ Dict.get args "student_id" = .str userId
  live : ∃ state, readCourseState (Dict.get args "course_id") = .ok state ∧
    Precondition userId args state tool

theorem student_grants {tool : ActionTool} {config : RoleConfig}
    (known : roles.lookup "student" = some config) (granted : toolName tool ∈ config.granted) :
    tool = .enrollmentModify := by
  obtain rfl : _ = config := Option.some.inj known
  cases tool with
  | enrollmentModify => rfl
  | gradeUpdate => exact absurd granted (by decide)
  | assignmentCreate => exact absurd granted (by decide)

theorem permitted_of_allowed {rt : Runtime} {readCourseState : ReadCourse}
    {input : InnerSafetyInput} {tool : ActionTool}
    (allowed : AllAllowed rt readCourseState input) (name : input.toolName = toolName tool) :
    Permitted readCourseState input.session.userRole input.session.userId tool input.toolArgs := by
  obtain ⟨config, known, granted⟩ := authorization_granted allowed.authorization
  obtain ⟨reason, verdict⟩ := liveState_dispatch allowed.liveState
  have onlyEnrollment : input.session.userRole = "student" → tool = .enrollmentModify := by
    intro role
    exact student_grants (role ▸ known) (name ▸ granted)
  have live : (input.session.userRole = "student" →
        Dict.get input.toolArgs "student_id" = .str input.session.userId) ∧
      ∃ state, readCourseState (Dict.get input.toolArgs "course_id") = .ok state ∧
        Precondition input.session.userId input.toolArgs state tool := by
    unfold dispatch at verdict
    rw [name] at verdict
    cases tool with
    | enrollmentModify => exact enrollmentModify_allows verdict
    | gradeUpdate =>
        refine ⟨fun role => ?_, gradeUpdate_allows verdict⟩
        cases onlyEnrollment role
    | assignmentCreate =>
        refine ⟨fun role => ?_, assignmentCreate_allows verdict⟩
        cases onlyEnrollment role
  exact {
    granted := ⟨config, known, name ▸ granted⟩
    present := name ▸ presence_required allowed.presence
    own := fun role => ⟨onlyEnrollment role, live.1 role⟩
    live := live.2 }

end RealityAI.Proof.InnerSafety
