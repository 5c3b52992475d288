import RealityAI.Model.PlanAgent
import RealityAI.Proof.WriteGate

/-!
# What the agents do for a session without a role

The effective role is then that of a student, and everything the agents do is a sequence of attempts
of that student. Where LangChain takes no arguments for a call, each attempt is about the student's
own enrollment and leaves its record.
-/

namespace RealityAI.Proof.Chat
open Library Library.Superstep Python Model.Safety Model.Schemas Model.State Model.PlanningAgent
open Model.ActionAgent Model.PlanSteps Model.PlanAgent InnerSafety ActionAgent Invocation WriteGate

structure RecordOf (userId sessionId : String) (record : AuditRecord) : Prop where
  user : record.userId = userId
  session : record.sessionId = sessionId
  role : record.userRole = "student"

structure AllowRecord (userId sessionId : String) (record : AuditRecord) : Prop
    extends RecordOf userId sessionId record where
  tool : record.toolName = "enrollment_modify"
  allowed : record.decision = .allow
  attempted : record.executionAttempted = true

/-- The events of one attempt: it fails in the gate, is denied, has arguments that LangChain refuses,
or modifies an enrollment. With `plain` arguments the enrollment is the student's own, and each
attempt that gets a verdict is recorded, last. -/
inductive StudentAttempt (plain : Prop) (userId sessionId : String) : List Event → Prop
  | raised : StudentAttempt plain userId sessionId []
  | denied {record : AuditRecord} : RecordOf userId sessionId record → record.decision = .deny →
      record.executionAttempted = false → StudentAttempt plain userId sessionId [.persisted record]
  | refused {record : AuditRecord} : AllowRecord userId sessionId record →
      StudentAttempt plain userId sessionId [.persisted record]
  | executed {studentId courseId action : String} {record : AuditRecord} :
      (plain → studentId = userId) → AllowRecord userId sessionId record →
      StudentAttempt plain userId sessionId
        [.invoked (.enrollmentModify studentId courseId action), .persisted record]
  | lost {studentId courseId action : String} : ¬ plain →
      StudentAttempt plain userId sessionId
        [.invoked (.enrollmentModify studentId courseId action)]

def StudentLog (plain : Prop) (userId sessionId : String) (log : List Event) : Prop :=
  ∃ attempts : List (List Event), log = attempts.flatten ∧
    ∀ attempt ∈ attempts, StudentAttempt plain userId sessionId attempt

section
variable {plain sent : Prop} {userId sessionId : String} {log : List Event}

theorem StudentAttempt.imp (attempt : StudentAttempt plain userId sessionId log)
    (implies : sent → plain) : StudentAttempt sent userId sessionId log := by
  cases attempt with
  | raised => exact .raised
  | denied of deny quiet => exact .denied of deny quiet
  | refused of => exact .refused of
  | executed own of => exact .executed (fun holds => own (implies holds)) of
  | lost envelope => exact .lost fun holds => envelope (implies holds)

theorem StudentAttempt.studentLog (attempt : StudentAttempt plain userId sessionId log) :
    StudentLog plain userId sessionId log :=
  ⟨[log], by simp, by simpa using attempt⟩

theorem StudentLog.nil : StudentLog plain userId sessionId [] := ⟨[], rfl, by simp⟩

theorem StudentLog.imp (logged : StudentLog plain userId sessionId log) (implies : sent → plain) :
    StudentLog sent userId sessionId log := by
  obtain ⟨attempts, same, own⟩ := logged
  exact ⟨attempts, same, fun attempt mem => (own attempt mem).imp implies⟩

theorem StudentLog.flatMap {α : Type} {parts : List α} {log : α → List Event}
    (each : ∀ part ∈ parts, StudentLog plain userId sessionId (log part)) :
    StudentLog plain userId sessionId (parts.flatMap log) := by
  induction parts with
  | nil => exact .nil
  | cons part parts ih =>
      obtain ⟨attempts, same, own⟩ := each part List.mem_cons_self
      obtain ⟨later, same', own'⟩ := ih fun other mem => each other (List.mem_cons_of_mem _ mem)
      refine ⟨attempts ++ later, by rw [List.flatMap_cons, same, same', List.flatten_append], ?_⟩
      intro attempt mem
      rcases List.mem_append.mp mem with here | there
      · exact own attempt here
      · exact own' attempt there

theorem StudentLog.call (logged : StudentLog plain userId sessionId log) {call : WriteCall}
    (mem : .invoked call ∈ log) : ∃ studentId courseId action,
      call = .enrollmentModify studentId courseId action ∧ (plain → studentId = userId) := by
  obtain ⟨attempts, rfl, own⟩ := logged
  obtain ⟨attempt, inside, mem⟩ := List.mem_flatten.mp mem
  cases own attempt inside with
  | raised => cases mem
  | denied | refused => cases List.mem_singleton.mp mem
  | executed own of =>
      rcases List.mem_cons.mp mem with here | there
      · cases here
        exact ⟨_, _, _, rfl, own⟩
      · cases List.mem_singleton.mp there
  | lost envelope =>
      cases List.mem_singleton.mp mem
      exact ⟨_, _, _, rfl, fun holds => absurd holds envelope⟩

def Recorded (userId sessionId : String) (log : List Event) (call : WriteCall) : Prop :=
  ∃ record, [.invoked call, .persisted record] <:+: log ∧ AllowRecord userId sessionId record

theorem StudentLog.recorded (logged : StudentLog plain userId sessionId log) (holds : plain)
    {call : WriteCall} (mem : .invoked call ∈ log) : Recorded userId sessionId log call := by
  obtain ⟨attempts, rfl, own⟩ := logged
  obtain ⟨attempt, inside, mem⟩ := List.mem_flatten.mp mem
  have within := List.infix_of_mem_flatten inside
  cases own attempt inside with
  | raised => cases mem
  | denied | refused => cases List.mem_singleton.mp mem
  | @executed _ _ _ record own of =>
      rcases List.mem_cons.mp mem with here | there
      · cases here
        exact ⟨record, within, of⟩
      · cases List.mem_singleton.mp there
  | lost envelope => exact absurd holds envelope

end

section
variable {rt : Runtime} {w : World}

theorem student_call {args : Dict} {call : WriteCall} {userId : String}
    (made : w.langChain.makeCall .enrollmentModify args = .ok call)
    (own : Dict.get args "student_id" = .str userId) : ∃ studentId courseId action,
      call = .enrollmentModify studentId courseId action ∧
      (¬ IsToolCall args → studentId = userId) := by
  have enrolls := w.langChain.own made
  cases call with
  | gradeUpdate => cases enrolls
  | assignmentCreate => cases enrolls
  | enrollmentModify studentId courseId action =>
      refine ⟨studentId, courseId, action, rfl, fun plain => ?_⟩
      have student := get_of_readFrom (w.langChain.plain plain made) "student_id" (.str studentId)
        (by simp [WriteCall.args]) (by decide)
      exact Json.str.inj (student.symm.trans own)

variable (rt w) in
theorem attempt_student (path : Path) (input : InnerSafetyInput)
    (student : input.session.userRole = "student") :
    StudentAttempt (¬ IsToolCall input.toolArgs) input.session.userId input.session.sessionId
      (attempt path rt w input).log := by
  have run := attemptRun path rt w input
  generalize attempt path rt w input = x at run
  cases run with
  | raised => exact .raised
  | denied results first => exact .denied ⟨rfl, rfl, student⟩ rfl rfl
  | executed tool results allowed name =>
      obtain ⟨enrolls, own⟩ := (permitted_of_allowed allowed name).own student
      subst enrolls
      rw [calls_eq]
      cases made : w.langChain.makeCall .enrollmentModify input.toolArgs with
      | error e => exact .refused ⟨⟨rfl, rfl, student⟩, name, rfl, rfl⟩
      | ok call =>
          obtain ⟨studentId, courseId, action, rfl, mine⟩ := student_call made own
          exact .executed mine ⟨⟨rfl, rfl, student⟩, name, rfl, rfl⟩
  | lost tool standalone allowed name message =>
      obtain ⟨enrolls, own⟩ := (permitted_of_allowed allowed name).own student
      subst enrolls
      obtain ⟨call, raw, made, -, -⟩ := outcome_ok message
      obtain ⟨studentId, courseId, action, rfl, -⟩ := student_call made own
      rw [calls_eq, made]
      exact .lost (not_not.mpr (toolMessage_toolCall message))

variable (rt w) in
theorem gatedNodes_student (plain : Prop) {s : InternalState}
    (fresh : s.innerSafetyResult = none) (quiet : s.executionError = none)
    (unran : s.rawToolResult = none) (student : s.userRole = "student")
    (direct : plain → ∀ args, s.toolArguments = some (.obj args) → ¬ IsToolCall args) :
    StudentAttempt plain s.userId s.sessionId (gatedNodes rt w s).log := by
  by_cases gated : nothingToGate s = false
  · cases valid : gateInput s with
    | error e =>
        rw [gatedNodes_invalid rt w gated valid]
        exact .raised
    | ok input =>
        have identity : input.session = ⟨s.userId, s.sessionId, "student", none⟩ := by
          unfold gateInput at valid
          obtain ⟨name, -, valid⟩ := bind_ok.mp valid
          obtain ⟨args, -, valid⟩ := bind_ok.mp valid
          cases valid
          rw [student]
          rfl
        rw [gatedNodes_eq rt w quiet unran gated valid, Eff.map_log]
        have own := attempt_student rt w .standalone input (by rw [identity])
        rw [identity] at own
        exact own.imp fun holds envelope =>
          direct holds input.toolArgs (sent_arguments valid envelope) envelope
  · rw [gatedNodes_skipped rt w fresh (Bool.not_eq_false _ ▸ gated)]
    exact .raised

theorem runSubgraph_student (reply : Reply) {s : InternalState} (fresh : s.innerSafetyResult = none)
    (quiet : s.executionError = none) (unran : s.rawToolResult = none)
    (student : s.userRole = "student") :
    StudentAttempt (¬ SendsToolCall reply) s.userId s.sessionId
      (runSubgraph rt w reply s).log := by
  unfold runSubgraph
  cases routed : routeAction reply s with
  | error e => exact .raised
  | ok s' =>
      obtain ⟨role, user, session, inner, error, result⟩ := routeAction_identity routed
      have own := gatedNodes_student rt w (¬ SendsToolCall reply) (inner.trans fresh)
        (error.trans quiet) (result.trans unran) (role.trans student)
        fun plain args sent envelope => plain (routeAction_arguments routed args sent envelope)
      rw [user, session] at own
      show StudentAttempt _ _ _ (pure s' >>= gatedNodes rt w : Eff PyExc Event InternalState).log
      rwa [Eff.pure_bind']

structure StudentView (userId sessionId : String) (view : AgentView) : Prop where
  user : view.userId = some (.str userId)
  session : view.sessionId = some (.str sessionId)
  role : view.userRole = none

variable {userId sessionId : String} {view : AgentView} (sees : StudentView userId sessionId view)
include sees

theorem actionInput_student {input : ActionAgentInput} (valid : actionInput view = .ok input) :
    input.userId = userId ∧ input.sessionId = sessionId ∧ input.userRole = "student" := by
  unfold actionInput at valid
  rw [sees.user, sees.session, sees.role] at valid
  obtain ⟨message, -, valid⟩ := bind_ok.mp valid
  obtain ⟨user, same, valid⟩ := bind_ok.mp valid
  obtain ⟨session, same', valid⟩ := bind_ok.mp valid
  obtain ⟨role, same'', valid⟩ := bind_ok.mp valid
  cases valid
  exact ⟨(Except.ok.inj same).symm, (Except.ok.inj same').symm, (Except.ok.inj same'').symm⟩

theorem runActionAgent_student (reply : Reply) :
    StudentAttempt (¬ SendsToolCall reply) userId sessionId
      (runActionAgent rt w reply view).log := by
  unfold runActionAgent
  cases valid : actionInput view with
  | error e => exact .raised
  | ok input =>
      obtain ⟨user, session, role⟩ := actionInput_student sees valid
      show StudentAttempt _ _ _ (pure input >>= fun input => _ : Eff PyExc Event AgentResult).log
      rw [Eff.pure_bind', Eff.map_log, invokeActionSubgraph, Eff.bind_lift_log, ← user, ← session]
      exact runSubgraph_student reply
        (s := { userMessage := input.userMessage, userId := input.userId,
                sessionId := input.sessionId, userRole := input.userRole }) rfl rfl rfl role

end

def PlanSendsToolCall (p : Plan) : Prop :=
  ∃ step ∈ p.steps, IsToolCall (step.actionArgs.getD [])

section
variable {rt : Runtime} {world : PlanStep → World} {userId sessionId : String}
variable {query reasoning solver : PlanStep → StepOutputs → Except PyExc StepValue}

theorem runActionStep_student {w : World} (step : PlanStep) :
    StudentAttempt (¬ IsToolCall (step.actionArgs.getD [])) userId sessionId
      (runActionStep rt w step (some ⟨userId, sessionId, "student", none⟩)).log := by
  cases known : actionTools.lookup (step.actionTool.getD "") with
  | none =>
      unfold runActionStep
      dsimp only
      rw [known]
      split <;> exact .raised
  | some registered =>
      rw [runActionStep_eq rt w step _ known, Eff.map_log]
      exact attempt_student rt w .planned
        (stepInput step (some ⟨userId, sessionId, "student", none⟩)) rfl

theorem makeStepNode_student (step : PlanStep) {state : ExecState}
    (session : state.session = some ⟨userId, sessionId, "student", none⟩) :
    StudentAttempt (¬ IsToolCall (step.actionArgs.getD [])) userId sessionId
      (makeStepNode (planHandlers rt world query reasoning solver) step state).log := by
  unfold makeStepNode dispatchStep
  rw [session]
  cases step.agentType with
  | action =>
      dsimp only
      rw [Eff.map_log]
      exact runActionStep_student step
  | _ =>
      simp only [Eff.lift_log]
      exact .raised

theorem runPlanGraph_student {limits : GraphLimits} {order : MergeOrder Update} (p : Plan) :
    StudentLog (¬ PlanSendsToolCall p) userId sessionId
      (runPlanGraph limits (planHandlers rt world query reasoning solver) order p
        ⟨userId, sessionId, "student", none⟩).log := by
  unfold runPlanGraph
  split
  · exact .nil
  dsimp only
  have logged : StudentLog (¬ PlanSendsToolCall p) userId sessionId
      (((invokePlanGraph (planHandlers rt world query reasoning solver) p order
        (some ⟨userId, sessionId, "student", none⟩)).1.take limits.supersteps).flatten.flatMap
          fun task => task.result.log) := by
    apply StudentLog.flatMap
    intro task inside
    obtain ⟨tasks, ran, inside⟩ := List.mem_flatten.mp inside
    -- no superstep changes the session
    obtain ⟨carried, f, node, result⟩ := Graph.run_tasks _ order
      (fun s => s.session = some ⟨userId, sessionId, "student", none⟩)
      (fun _ _ kept => kept) _ _ rfl (List.mem_of_mem_take ran) inside
    obtain ⟨step, listed, same⟩ := List.mem_map.mp node
    obtain rfl : makeStepNode _ step = f := (Prod.mk.inj same).2
    rw [result]
    apply (StudentAttempt.imp (makeStepNode_student step carried) ?_).studentLog
    exact fun plain envelope => plain ⟨step, listed, envelope⟩
  split
  · exact logged
  · split <;> exact logged

/-- The model makes such a plan. -/
def MakesToolCall (reader : PlanReader) (setOrder : SetOrder) (reply : Except PyExc Reply) : Prop :=
  ∃ made p, reply >>= makePlan reader setOrder = .ok made ∧ made.plan = some p ∧ PlanSendsToolCall p

theorem runPlanningAgent_student {limits : GraphLimits} {order : MergeOrder Update}
    (reader : PlanReader) (setOrder : SetOrder) (reply : Except PyExc Reply) {view : AgentView}
    (sees : StudentView userId sessionId view) :
    StudentLog (¬ MakesToolCall reader setOrder reply) userId sessionId
      (runPlanningAgent limits (planHandlers rt world query reasoning solver) order reader setOrder
        reply view).log := by
  have planned_student (p : Plan) : StudentLog (¬ PlanSendsToolCall p) userId sessionId
      (planned limits (planHandlers rt world query reasoning solver) order p view).log := by
    have session : planSession view = .ok ⟨userId, sessionId, "student", none⟩ := by
      unfold planSession
      rw [sees.user, sees.session, sees.role]
      rfl
    unfold planned
    rw [session]
    show StudentLog _ _ _ (pure _ >>= fun session => _ : Eff PyExc Event PlanningResult).log
    rw [Eff.pure_bind', Eff.map_log]
    exact runPlanGraph_student p
  unfold runPlanningAgent
  cases userQuery view >>= humanContent with
  | error e => exact .nil
  | ok content =>
      cases reply with
      | error e => exact .nil
      | ok reply =>
          show StudentLog _ _ _ (Eff.lift (makePlan reader setOrder reply) >>= fun made => _).log
          cases made : makePlan reader setOrder reply with
          | error e => exact .nil
          | ok plan =>
              show StudentLog _ _ _
                (pure plan >>= fun made => _ : Eff PyExc Event PlanningResult).log
              rw [Eff.pure_bind']
              cases some : plan.plan with
              | none =>
                  dsimp only
                  rw [Eff.lift_log]
                  exact .nil
              | some p =>
                  refine (planned_student p).imp fun plain sends => plain ?_
                  exact ⟨plan, p, made, some, sends⟩

end

end RealityAI.Proof.Chat
