import RealityAI.Proof.Plan.Steps

namespace RealityAI.Proof.WriteGate
open Library Library.Superstep Python Model.Safety Model.Schemas Model.State Model.PlanningAgent
open Model.ActionAgent InnerSafety ActionAgent Invocation

section
variable {rt : Runtime} {w : World} {call : WriteCall}

/-- The gate has allowed the arguments that LangChain makes the call of. -/
structure Gated (rt : Runtime) (w : World) (input : InnerSafetyInput) (call : WriteCall) : Prop where
  allowed : AllAllowed rt w.readCourseState input
  name : input.toolName = toolName call.tool
  made : w.langChain.makeCall call.tool input.toolArgs = .ok call

theorem attempt_invoked_iff {path : Path} {input : InnerSafetyInput} :
    .invoked call ∈ (attempt path rt w input).log ↔ Gated rt w input call := by
  have run := attemptRun path rt w input
  generalize attempt path rt w input = x at run
  have here {tool : ActionTool} (allowed : AllAllowed rt w.readCourseState input)
      (name : input.toolName = toolName tool) :
      .invoked call ∈ calls w tool input.toolArgs ↔ Gated rt w input call := by
    constructor
    · intro mem
      obtain ⟨call', same, made⟩ := mem_calls.mp mem
      cases same
      obtain rfl := w.langChain.own made
      exact ⟨allowed, name, made⟩
    · intro gated
      obtain rfl := toolName_inj (name.symm.trans gated.name)
      exact mem_calls.mpr ⟨call, rfl, gated.made⟩
  cases run with
  | raised raises =>
      exact iff_of_false List.not_mem_nil fun gated => gated.allowed.not_raises raises
  | denied _ first => exact iff_of_false (by simp) fun gated => first.not_allowed gated.allowed
  | executed tool _ allowed name =>
      rw [← here allowed name]
      simp
  | lost tool _ allowed name => exact here allowed name

/-- The gate has checked the arguments, and the call is read from them or from their `args`. -/
theorem Gated.checked {input : InnerSafetyInput} (gated : Gated rt w input call) :
    Permitted w.readCourseState input.session.userRole input.session.userId call.tool
        input.toolArgs ∧
      (ReadFrom input.toolArgs call ∨ IsToolCall input.toolArgs ∧
        ∃ inner, Dict.get input.toolArgs "args" = .obj inner ∧ ReadFrom inner call) := by
  refine ⟨permitted_of_allowed gated.allowed gated.name, ?_⟩
  by_cases envelope : IsToolCall input.toolArgs
  · exact .inr ⟨envelope, w.langChain.nested envelope gated.made⟩
  · exact .inl (w.langChain.plain envelope gated.made)

theorem Gated.permitted {input : InnerSafetyInput} (gated : Gated rt w input call)
    (plain : ¬ IsToolCall input.toolArgs) :
    ReadFrom input.toolArgs call ∧ Permitted w.readCourseState input.session.userRole
      input.session.userId call.tool call.args := by
  obtain ⟨permitted, read⟩ := gated.checked
  have read := read.resolve_right fun nested => plain nested.1
  exact ⟨read, permitted_call read permitted⟩

/-- What an attempt calls is checked, except where LangChain unpacks the arguments: there it depends
on the inner ones. -/
theorem attempt_checked_iff {path : Path} {input : InnerSafetyInput} :
    (∀ call, .invoked call ∈ (attempt path rt w input).log → Permitted w.readCourseState
        input.session.userRole input.session.userId call.tool call.args) ↔
      (IsToolCall input.toolArgs → ∀ call, Gated rt w input call → Permitted w.readCourseState
        input.session.userRole input.session.userId call.tool call.args) := by
  constructor
  · intro checked _ call gated
    exact checked call (attempt_invoked_iff.mpr gated)
  · intro harmless call invoked
    have gated := attempt_invoked_iff.mp invoked
    by_cases envelope : IsToolCall input.toolArgs
    · exact harmless envelope call gated
    · exact (gated.permitted envelope).2

theorem strField_ok {v : Json} {s : String} (text : strField v = .ok s) : v = .str s := by
  unfold strField at text
  split at text
  · rw [Except.ok.inj text]
  · cases text

theorem gateInput_session {s : InternalState} {input : InnerSafetyInput}
    (valid : gateInput s = .ok input) (some : s.userRole ≠ "") :
    input.session.userRole = s.userRole ∧ input.session.userId = s.userId := by
  unfold gateInput at valid
  obtain ⟨name, -, valid⟩ := bind_ok.mp valid
  obtain ⟨args, -, valid⟩ := bind_ok.mp valid
  cases valid
  exact ⟨if_neg some, rfl⟩

theorem routeAction_identity {reply : Reply} {s routed : InternalState}
    (ok : routeAction reply s = .ok routed) :
    routed.userRole = s.userRole ∧ routed.userId = s.userId ∧ routed.sessionId = s.sessionId ∧
      routed.innerSafetyResult = s.innerSafetyResult ∧
      routed.executionError = s.executionError ∧ routed.rawToolResult = s.rawToolResult := by
  unfold routeAction noTool at ok
  repeat' split at ok
  all_goals cases ok
  all_goals exact ⟨rfl, rfl, rfl, rfl, rfl, rfl⟩

/-- The model writes arguments that LangChain takes for a call of its own. -/
def SendsToolCall (reply : Reply) : Prop :=
  ∃ decision args, reply.parsed = some (.obj decision) ∧
    Dict.get? decision "arguments" = some (.obj args) ∧ IsToolCall args

theorem routeAction_arguments {reply : Reply} {s routed : InternalState}
    (ok : routeAction reply s = .ok routed) (args : Dict)
    (sent : routed.toolArguments = some (.obj args)) (envelope : IsToolCall args) :
    SendsToolCall reply := by
  unfold routeAction at ok
  split at ok
  · split at ok
    · cases ok
      cases sent
      cases envelope
    · rename_i decision parsed
      split at ok
      · cases ok
        cases sent
        cases envelope
      · cases ok
        cases given : Dict.get? decision "arguments" with
        | none =>
            simp only [given] at sent
            cases sent
            cases envelope
        | some v =>
            simp only [given] at sent
            obtain rfl : v = .obj args := Option.some.inj sent
            exact ⟨decision, args, parsed, given, envelope⟩
    · cases ok
  · cases ok

theorem gatedNodes_invoked {s : InternalState} (fresh : s.innerSafetyResult = none)
    (quiet : s.executionError = none) (unran : s.rawToolResult = none)
    (invoked : .invoked call ∈ (gatedNodes rt w s).log) :
    ∃ input, gateInput s = .ok input ∧ Gated rt w input call := by
  by_cases gated : nothingToGate s = false
  · cases valid : gateInput s with
    | error e =>
        rw [gatedNodes_invalid rt w gated valid] at invoked
        cases invoked
    | ok input =>
        rw [gatedNodes_eq rt w quiet unran gated valid, Eff.map_log] at invoked
        exact ⟨input, rfl, attempt_invoked_iff.mp invoked⟩
  · rw [gatedNodes_skipped rt w fresh (Bool.not_eq_false _ ▸ gated)] at invoked
    cases invoked

structure Identity (state : AgentView) (role userId : String) : Prop where
  role : effectiveRole state.userRole = .str role
  user : state.userId.getD (.str "") = .str userId

theorem effectiveRole_nonempty {userRole : Option Json} {role : String}
    (same : effectiveRole userRole = .str role) : role ≠ "" := by
  intro empty
  subst empty
  unfold effectiveRole Json.or at same
  split at same
  · rename_i truthy
    rw [same] at truthy
    cases truthy
  · exact absurd (Json.str.inj same) (by decide)

theorem sent_arguments {s : InternalState} {input : InnerSafetyInput}
    (valid : gateInput s = .ok input) (envelope : IsToolCall input.toolArgs) :
    s.toolArguments = some (.obj input.toolArgs) := by
  have given := gateInput_args valid
  have some : input.toolArgs ≠ [] := by
    intro empty
    rw [empty] at envelope
    cases envelope
  unfold Json.or at given
  split at given
  · cases sent : s.toolArguments with
    | none =>
        rw [sent] at given
        exact absurd (Json.obj.inj given).symm some
    | some v =>
        rw [sent] at given
        exact congrArg _ given
  · exact absurd (Json.obj.inj given).symm some

structure Asked (state : AgentView) (reply : Reply) (input : InnerSafetyInput) : Prop where
  identity : Identity state input.session.userRole input.session.userId
  sent : IsToolCall input.toolArgs → SendsToolCall reply

theorem runActionAgent_invoked {reply : Reply} {state : AgentView}
    (invoked : .invoked call ∈ (runActionAgent rt w reply state).log) :
    ∃ input, Asked state reply input ∧ Gated rt w input call := by
  unfold runActionAgent at invoked
  cases valid : actionInput state with
  | error e =>
      rw [valid] at invoked
      cases invoked
  | ok asked =>
      rw [valid] at invoked
      change _ ∈ (pure asked >>= fun input => _ : Eff PyExc Event AgentResult).log at invoked
      rw [Eff.pure_bind', Eff.map_log, invokeActionSubgraph, Eff.bind_lift_log, runSubgraph,
        Eff.mem_bind_log, Eff.lift_log, Eff.lift_out] at invoked
      rcases invoked with invoked | ⟨routed, ok, invoked⟩
      · cases invoked
      obtain ⟨sameRole, sameUser, -, fresh, quiet, unran⟩ := routeAction_identity ok
      obtain ⟨input, gate, gated⟩ := gatedNodes_invoked fresh quiet unran invoked
      obtain ⟨userMsg, -, valid⟩ := bind_ok.mp valid
      obtain ⟨userId, user, valid⟩ := bind_ok.mp valid
      obtain ⟨sessionId, -, valid⟩ := bind_ok.mp valid
      obtain ⟨role, effective, valid⟩ := bind_ok.mp valid
      cases valid
      have some := effectiveRole_nonempty (strField_ok effective)
      obtain ⟨gateRole, gateUser⟩ := gateInput_session gate (sameRole ▸ some)
      refine ⟨input, ⟨?_, fun envelope => ?_⟩, gated⟩
      · rw [gateRole, gateUser, sameRole, sameUser]
        exact ⟨strField_ok effective, strField_ok user⟩
      · exact routeAction_arguments ok _ (sent_arguments gate envelope) envelope

theorem runActionStep_invoked {step : PlanStep} {session : Option SessionContext}
    (invoked : .invoked call ∈ (runActionStep rt w step session).log) :
    Gated rt w (stepInput step session) call ∧ step.actionTool = some (toolName call.tool) := by
  cases known : actionTools.lookup (step.actionTool.getD "") with
  | none =>
      unfold runActionStep at invoked
      dsimp only at invoked
      rw [known] at invoked
      split at invoked <;> cases invoked
  | some registered =>
      rw [runActionStep_eq rt w step session known, Eff.map_log] at invoked
      have gated := attempt_invoked_iff.mp invoked
      refine ⟨gated, ?_⟩
      have name : step.actionTool.getD "" = toolName call.tool := gated.name
      cases chosen : step.actionTool with
      | none =>
          rw [chosen] at name
          exact absurd name (by cases call.tool <;> decide)
      | some operation =>
          rw [chosen] at name
          exact congrArg _ name

variable {world : PlanStep → World}
  {query reasoning solver : PlanStep → StepOutputs → Except PyExc StepValue}

theorem makeStepNode_invoked {step : PlanStep} {state : ExecState}
    (invoked : .invoked call ∈
      (makeStepNode (planHandlers rt world query reasoning solver) step state).log) :
    .invoked call ∈ (runActionStep rt (world step) step state.session).log := by
  unfold makeStepNode dispatchStep at invoked
  cases agent : step.agentType with
  | action =>
      simp only [agent, Eff.map_log] at invoked
      exact invoked
  | _ =>
      simp only [agent, Eff.lift_log] at invoked
      cases invoked

theorem sessionContext_ok {userId sessionId userRole : Json} {session : SessionContext}
    (valid : sessionContext userId sessionId userRole = .ok session) :
    userId = .str session.userId ∧ userRole = .str session.userRole := by
  unfold sessionContext at valid
  obtain ⟨user, ok, valid⟩ := bind_ok.mp valid
  obtain ⟨sid, -, valid⟩ := bind_ok.mp valid
  obtain ⟨role, ok', valid⟩ := bind_ok.mp valid
  cases valid
  exact ⟨strField_ok ok, strField_ok ok'⟩

theorem executePlan_invoked {p : Plan} {order : MergeOrder Update} {state : AgentView}
    (invoked : .invoked call ∈
      (executePlan (planHandlers rt world query reasoning solver) p order state).log) :
    ∃ session, Identity state session.userRole session.userId ∧ ∃ step ∈ p.steps,
      step.actionTool = some (toolName call.tool) ∧
      Gated rt (world step) (stepInput step (some session)) call := by
  unfold executePlan at invoked
  rw [Eff.mem_bind_log, Eff.lift_log, Eff.lift_out] at invoked
  rcases invoked with invoked | ⟨session, ok, invoked⟩
  · cases invoked
  obtain ⟨user, role⟩ := sessionContext_ok ok
  refine ⟨session, ⟨role, user⟩, ?_⟩
  obtain ⟨task, inside, invoked⟩ := List.mem_flatMap.mp invoked
  obtain ⟨tasks, ran, mem⟩ := List.mem_flatten.mp inside
  obtain ⟨carried, f, node, result⟩ := Graph.run_tasks _ order (fun s => s.session = some session)
    (fun _ _ kept => kept) _ _ rfl ran mem
  obtain ⟨step, listed, same⟩ := List.mem_map.mp node
  obtain rfl : makeStepNode _ step = f := (Prod.mk.inj same).2
  rw [result] at invoked
  have attempted := makeStepNode_invoked invoked
  rw [carried] at attempted
  obtain ⟨gated, name⟩ := runActionStep_invoked attempted
  exact ⟨step, listed, name, gated⟩

end

/-- Whenever a function is called, by the standalone agent or by a step of a plan, the gate has
checked exactly this write of this user, unless LangChain takes the arguments for a call. -/
theorem no_write_bypasses_gate (rt : Runtime) (state : AgentView) (call : WriteCall) :
    (∀ w reply, ¬ SendsToolCall reply →
      .invoked call ∈ (runActionAgent rt w reply state).log →
      ∃ role userId, Identity state role userId ∧
        Permitted w.readCourseState role userId call.tool call.args) ∧
    ∀ world query reasoning solver p order,
      (∀ step ∈ p.steps, ¬ IsToolCall (step.actionArgs.getD [])) →
      .invoked call ∈
        (executePlan (planHandlers rt world query reasoning solver) p order state).log →
      ∃ role userId, Identity state role userId ∧ ∃ step ∈ p.steps,
        step.actionTool = some (toolName call.tool) ∧ ReadFrom (step.actionArgs.getD []) call ∧
        Permitted (world step).readCourseState role userId call.tool call.args := by
  constructor
  · intro w reply plain invoked
    obtain ⟨input, asked, gated⟩ := runActionAgent_invoked invoked
    exact ⟨_, _, asked.identity, (gated.permitted fun envelope => plain (asked.sent envelope)).2⟩
  · intro world query reasoning solver p order plain invoked
    obtain ⟨session, identity, step, listed, name, gated⟩ := executePlan_invoked invoked
    obtain ⟨read, permitted⟩ := gated.permitted (plain step listed)
    exact ⟨_, _, identity, step, listed, name, read, permitted⟩

/-! A student adds a course that has a free seat. -/

def openCourse : CourseState where
  instructorUserId := "instructor_smith"
  currentEnrollment := 25
  capacity := 30
  gradeWindowOpen := true
  enrolledStudents := ["S002"]

def addArgs : Dict :=
  [("student_id", .str "S001"), ("course_id", .str "CS101"), ("action", .str "add")]

def openWorld : World where
  readCourseState _ := .ok openCourse
  langChain := textTools
  functions _ := .ok [("success", .bool true)]
  stamp := ⟨"0123456789ab", "2025-09-01T00:00:00+00:00"⟩

def addReply : Reply where
  content := .str ("\x7b\"tool\": \"enrollment_modify\", \"arguments\": \x7b\"student_id\": " ++
    "\"S001\", \"course_id\": \"CS101\", \"action\": \"add\"\x7d\x7d")
  parsed := some (.obj [("tool", .str "enrollment_modify"), ("arguments", .obj addArgs)])

def studentView : AgentView where
  messages := [⟨.str "Enroll me in CS101"⟩]
  userId := some (.str "S001")
  sessionId := some (.str "session-1")
  userRole := none
  userQueryNormalized := none

theorem addReply_plain : ¬ SendsToolCall addReply := by
  rintro ⟨decision, args, parsed, given, envelope⟩
  cases parsed
  cases given
  cases envelope

def addCall : WriteCall := .enrollmentModify "S001" "CS101" "add"

def addStep : PlanStep where
  stepId := 0
  description := "Enroll in CS101"
  agentType := .action
  actionTool := some "enrollment_modify"
  actionArgs := some addArgs
  valid := rfl

def addPlan : Plan where
  steps := [addStep]
  reasoning := "enroll"
  accepted := Plan.accepted_of_lt (by decide) (by decide) (by decide)

theorem addPlan_plain : ∀ step ∈ addPlan.steps, ¬ IsToolCall (step.actionArgs.getD []) := by
  intro step mem envelope
  rw [List.mem_singleton.mp mem] at envelope
  cases envelope

def noStep : PlanStep → StepOutputs → Except PyExc StepValue := fun _ _ => .ok (.json .null)

theorem student_add_permitted :
    (∃ role userId, Identity studentView role userId ∧
      Permitted openWorld.readCourseState role userId .enrollmentModify addArgs) ∧
    ∃ role userId, Identity studentView role userId ∧ ∃ step ∈ addPlan.steps,
      step.actionTool = some "enrollment_modify" ∧ ReadFrom (step.actionArgs.getD []) addCall ∧
      Permitted openWorld.readCourseState role userId .enrollmentModify addArgs := by
  obtain ⟨standalone, planned⟩ := no_write_bypasses_gate .ascii studentView addCall
  constructor
  · exact standalone openWorld addReply addReply_plain (List.mem_of_mem_head? (by rfl))
  · exact planned (fun _ => openWorld) noStep noStep noStep addPlan Plan.keepOrder addPlan_plain
      (List.mem_of_mem_head? (by rfl))

/-! With the same arguments in front of those of another student's drop, the gate checks the add. -/

def dropArgs : Dict :=
  [("student_id", .str "S002"), ("course_id", .str "CS401"), ("action", .str "drop")]

def envelopeArgs : Dict :=
  addArgs ++ [("type", .str "tool_call"), ("id", .str "call-1"), ("args", .obj dropArgs)]

def envelopeText : String :=
  "\x7b\"tool\": \"enrollment_modify\", \"arguments\": \x7b\"student_id\": " ++
    "\"S001\", \"course_id\": \"CS101\", \"action\": \"add\", \"type\": \"tool_call\", " ++
    "\"id\": \"call-1\", \"args\": \x7b\"student_id\": \"S002\", \"course_id\": \"CS401\", " ++
    "\"action\": \"drop\"\x7d\x7d\x7d"

def envelopeReply : Reply where
  content := .str envelopeText
  parsed := some (.obj [("tool", .str "enrollment_modify"), ("arguments", .obj envelopeArgs)])

theorem student_drops_other : ¬ ∀ call,
    .invoked call ∈ (runActionAgent .ascii openWorld envelopeReply studentView).log →
      ∃ role userId, Identity studentView role userId ∧
        Permitted openWorld.readCourseState role userId call.tool call.args := by
  intro checked
  obtain ⟨role, userId, identity, permitted⟩ :=
    checked (.enrollmentModify "S002" "CS401" "drop") (List.mem_of_mem_head? (by rfl))
  obtain rfl : "student" = role := Json.str.inj identity.role
  obtain rfl : "S001" = userId := Json.str.inj identity.user
  have own : Json.str "S002" = .str "S001" := (permitted.own rfl).2
  exact absurd (Json.str.inj own) (by decide)

end RealityAI.Proof.WriteGate
