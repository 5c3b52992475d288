import RealityAI.Proof.WriteGate

/-!
# When the two action paths agree
-/

namespace RealityAI.Proof.ActionPaths
open Library Library.Superstep Python Model.Safety Model.Schemas Model.State Model.PlanningAgent
open Model.ActionAgent InnerSafety ActionAgent

/-! ## The same attempt on both paths -/

structure ToolReply (name : String) (args : Dict) where
  raw : String
  decision : Dict
  direct : (Dict.get decision "clarification_needed").truthy = false
  tool : (Dict.get? decision "tool").getD (.str "") = .str name
  arguments : ((Dict.get? decision "arguments").getD (.obj [])).or (.obj []) = .obj args

structure ActionStep (name : String) (args : Dict) extends PlanStep where
  action : agentType = .action
  tool : actionTool.getD "" = name
  arguments : actionArgs.getD [] = args

variable {name : String} {args : Dict}

def ToolReply.reply (r : ToolReply name args) : Reply := ⟨.str r.raw, some (.obj r.decision)⟩

def view (userId sessionId userRole query : String) : AgentView where
  messages := [⟨.str query⟩]
  userId := some (.str userId)
  sessionId := some (.str sessionId)
  userRole := some (.str userRole)
  userQueryNormalized := none

def roleOf (userRole : String) : String := if userRole = "" then "student" else userRole

def sessionOf (userId sessionId userRole : String) : SessionContext where
  userId := userId
  sessionId := sessionId
  userRole := roleOf userRole

theorem effectiveRole_str (userRole : String) :
    effectiveRole (some (.str userRole)) = .str (roleOf userRole) := by
  by_cases empty : userRole = ""
  · rw [empty]
    rfl
  · simp [effectiveRole, Json.or, Json.truthy, roleOf, empty]

def inputOf (session : SessionContext) (name : String) (args : Dict) : InnerSafetyInput where
  session := session
  toolName := name
  toolArgs := args

theorem stepInput_eq (step : ActionStep name args) (session : SessionContext) :
    stepInput step.toPlanStep (some session) = inputOf session name args := by
  unfold stepInput
  rw [step.tool, step.arguments]
  rfl

section
variable (rt : Runtime) (w : World)

theorem runActionStep_unregistered (step : ActionStep name args)
    (unknown : actionTools.lookup name = none) (session : Option SessionContext) :
    (runActionStep rt w step.toPlanStep session).log = [] := by
  unfold runActionStep
  dsimp only
  rw [step.tool, unknown]
  split <;> rfl

/-! ## The standalone path -/

def standaloneReport : Attempt → Bool
  | .denied _ => false
  | .executed _ returned => returned.isOk

def Text (s : InternalState) : Prop := ∃ t, s.responseText.getD (.str "") = .str t

theorem finalState_keeps (s : InternalState) : (finalState rt s).success = s.success ∧
    (finalState rt s).selectedTool = s.selectedTool ∧
    (finalState rt s).innerSafetyResult = s.innerSafetyResult := by
  unfold finalState finalText
  split
  · exact ⟨rfl, rfl, rfl⟩
  · cases s.rawDict <;> exact ⟨rfl, rfl, rfl⟩

theorem finalState_text {s : InternalState} (text : Text s) : Text (finalState rt s) := by
  unfold finalState finalText
  split
  · exact text
  · cases s.rawDict with
    | error e => exact text
    | ok raw => exact ⟨_, rfl⟩

theorem attempted_text {s : InternalState} (unset : s.responseText = none) (a : Attempt) :
    Text (attempted s a) := by
  cases a with
  | denied result =>
      show ∃ t, (Json.str result.finalReasonHuman).or (.str result.finalReasonCode) = .str t
      unfold Json.or
      split
      · exact ⟨_, rfl⟩
      · exact ⟨_, rfl⟩
  | executed result returned =>
      cases returned with
      | ok raw => exact ⟨"", by show s.responseText.getD _ = _; rw [unset]; rfl⟩
      | error e => exact ⟨_, rfl⟩

theorem attempted_success (s : InternalState) (a : Attempt) :
    (attempted s a).success = some (standaloneReport a) := by
  cases a with
  | denied result => rfl
  | executed result returned => cases returned <;> rfl

theorem attempted_selectedTool (s : InternalState) (a : Attempt) :
    (attempted s a).selectedTool = s.selectedTool := by
  cases a with
  | denied result => rfl
  | executed result returned => cases returned <;> rfl

theorem actionOutput_attempted {s : InternalState} {a : Attempt}
    (told : Text (finalState rt (attempted s a)))
    (chosen : (s.selectedTool.getD (.str "")).or (.str "") = .str name) :
    ∃ output, actionOutput (finalState rt (attempted s a)) = .ok output ∧
      output.success = standaloneReport a ∧ output.selectedTool = name := by
  obtain ⟨t, response⟩ := told
  obtain ⟨success, tool, -⟩ := finalState_keeps rt (attempted s a)
  rw [attempted_success] at success
  rw [attempted_selectedTool] at tool
  unfold actionOutput
  rw [response, success, tool, chosen]
  exact ⟨_, rfl, rfl, rfl⟩

def routedState (reply : ToolReply name args) (s : InternalState) : InternalState :=
  { s with
    selectedTool := some (.str name)
    toolArguments := some ((Dict.get? reply.decision "arguments").getD (.obj []))
    confirmationText := some ((Dict.get? reply.decision "confirmation").getD (.str "")) }

theorem routeAction_eq (reply : ToolReply name args) (s : InternalState) :
    routeAction reply.reply s = .ok (routedState reply s) := by
  unfold routeAction routedState ToolReply.reply
  dsimp only
  rw [reply.direct, if_neg Bool.false_ne_true, reply.tool]

variable (userId sessionId userRole query : String)

def startState : InternalState where
  userMessage := query
  userId := userId
  sessionId := sessionId
  userRole := roleOf userRole

theorem gateInput_routed (reply : ToolReply name args) :
    gateInput (routedState reply (startState userId sessionId userRole query)) =
      .ok (inputOf (sessionOf userId sessionId userRole) name args) := by
  have role : roleOf userRole ≠ "" := by
    unfold roleOf
    split
    · decide
    · assumption
  unfold gateInput routedState startState
  simp only [Option.getD_some, Json.str_or_empty, reply.arguments, if_neg role]
  rfl

theorem runActionAgent_eq (reply : ToolReply name args) : ∃ report : Attempt → AgentResult,
    runActionAgent rt w reply.reply (view userId sessionId userRole query) =
      (attempt .standalone rt w (inputOf (sessionOf userId sessionId userRole) name args) >>= fun a =>
        pure (report a)) ∧
    (name ≠ "" → ∀ a, (report a).toolCalls.map ToolCall.success = [standaloneReport a]) := by
  let routed := routedState reply (startState userId sessionId userRole query)
  have chosen : (routed.selectedTool.getD (.str "")).or (.str "") = .str name := Json.str_or_empty name
  choose output ok success tool using fun a =>
    actionOutput_attempted rt (finalState_text rt (attempted_text (s := routed) rfl a)) chosen
  refine ⟨fun a => actionResult (output a), ?_, ?_⟩
  · have input : actionInput (view userId sessionId userRole query) =
        .ok ⟨query, userId, sessionId, roleOf userRole⟩ := by
      unfold actionInput view
      rw [effectiveRole_str]
      rfl
    unfold runActionAgent invokeActionSubgraph runSubgraph
    rw [input]
    show ((Eff.lift (routeAction reply.reply (startState userId sessionId userRole query)) >>= _) >>=
      fun final => Eff.lift (actionOutput final)) >>= (fun out => pure (actionResult out)) = _
    rw [routeAction_eq]
    show (gatedNodes rt w routed >>= _) >>= _ = _
    rw [gatedNodes_eq rt w rfl rfl rfl (gateInput_routed userId sessionId userRole query reply),
      Eff.map_bind]
    have reported : (fun a => Eff.lift (ω := Event) (actionOutput (finalState rt (attempted routed a)))) =
        fun a => pure (output a) := by
      funext a
      rw [ok]
      rfl
    show (attempt .standalone rt w _ >>= fun a =>
      Eff.lift (actionOutput (finalState rt (attempted routed a)))) >>= _ = _
    rw [reported]
    exact Eff.map_bind _ _ _
  · intro some a
    unfold actionResult
    dsimp only
    rw [tool a, if_neg some, ← success a]
    rfl

/-! ## The plan path -/

def plannedUpdate (step : PlanStep) (x : Eff PyExc Event Attempt) : Eff PyExc Event Update :=
  ⟨x.log, stepOutcome step (x.out.map fun a =>
    .json (.obj (stepDict (step.actionTool.getD "") a)))⟩

theorem makeStepNode_eq {tool : ActionTool} (step : ActionStep (toolName tool) args)
    (world : PlanStep → World) (query reasoning solver : PlanStep → StepOutputs →
      Except PyExc StepValue) (state : ExecState) (session : SessionContext)
    (carried : state.session = some session) :
    makeStepNode (planHandlers rt world query reasoning solver) step.toPlanStep state =
      plannedUpdate step.toPlanStep
        (attempt .planned rt (world step.toPlanStep) (inputOf session (toolName tool) args)) := by
  have known : actionTools.lookup (step.actionTool.getD "") = some tool := by
    rw [step.tool]
    cases tool <;> rfl
  have input : stepInput step.toPlanStep state.session = inputOf session (toolName tool) args := by
    unfold stepInput inputOf
    rw [carried, step.tool, step.arguments]
    rfl
  have ran := runActionStep_eq rt (world step.toPlanStep) step.toPlanStep state.session known
  rw [input] at ran
  unfold makeStepNode dispatchStep plannedUpdate
  simp only [step.action, planHandlers, ran, Eff.map_bind]
  generalize attempt .planned rt (world step.toPlanStep) (inputOf session (toolName tool) args) = x
  cases out : x.out with
  | error e =>
      rw [Eff.bind_error out]
      rfl
  | ok a =>
      rw [Eff.bind_ok out, Eff.pure_log, List.append_nil]
      rfl

def Flagged (d : Dict) : Prop := (Dict.get d "denied_by_inner_safety").truthy = true

def callSuccess (update : Except PyExc Update) : Option Bool :=
  match update with
  | .ok u => u.toolCalls.head?.map ToolCall.success
  | .error _ => none

theorem callSuccess_denied (step : ActionStep name args) (result : InnerSafetyResult) :
    callSuccess (stepOutcome step.toPlanStep
      (.ok (.json (.obj (stepDict (step.actionTool.getD "") (.denied result)))))) = some false := by
  have flagged : deniedResult step.toPlanStep
      (.json (.obj (stepDict (step.actionTool.getD "") (.denied result)))) =
        some (stepDict (step.actionTool.getD "") (.denied result)) :=
    if_pos ⟨step.action, rfl⟩
  have text : ∃ t, denialText (stepDict (step.actionTool.getD "") (.denied result)) = .str t := by
    show ∃ t, (Json.str result.finalReasonHuman).or (.str result.finalReasonCode) = _
    unfold Json.or
    split
    · exact ⟨_, rfl⟩
    · exact ⟨_, rfl⟩
  obtain ⟨t, same⟩ := text
  simp only [stepOutcome, flagged, same]
  rfl

theorem callSuccess_raised (step : ActionStep name args) (result : InnerSafetyResult)
    (returned : Except PyExc Returned) {e : PyExc}
    (raised : returned >>= Returned.asDict = .error e) :
    callSuccess (stepOutcome step.toPlanStep
      (.ok (.json (.obj (stepDict (step.actionTool.getD "") (.executed result returned)))))) =
        some true := by
  have unflagged : deniedResult step.toPlanStep
      (.json (.obj (stepDict (step.actionTool.getD "") (.executed result returned)))) = none := by
    unfold stepDict stepExecution
    dsimp only
    rw [raised]
    exact if_neg fun both => by cases both.2
  simp only [stepOutcome, unflagged]
  rfl

theorem callSuccess_returned (step : ActionStep name args) (result : InnerSafetyResult) (d : Dict) :
    callSuccess (stepOutcome step.toPlanStep (.ok (.json (.obj
      (stepDict (step.actionTool.getD "") (.executed result (.ok (.dict d)))))))) =
        some true ↔ ¬ Flagged d := by
  have flag : (Dict.get (stepDict (step.actionTool.getD "") (.executed result (.ok (.dict d))))
      "denied_by_inner_safety") = Dict.get d "denied_by_inner_safety" :=
    Dict.get_set_other (by decide)
  by_cases flagged : Flagged d
  · refine iff_of_false ?_ (not_not.mpr flagged)
    have found : deniedResult step.toPlanStep
        (.json (.obj (stepDict (step.actionTool.getD "") (.executed result (.ok (.dict d)))))) =
          some (stepDict (step.actionTool.getD "") (.executed result (.ok (.dict d)))) :=
      if_pos ⟨step.action, flag ▸ flagged⟩
    simp only [stepOutcome, found]
    cases errorField
        (denialText (stepDict (step.actionTool.getD "") (.executed result (.ok (.dict d)))))
    · exact fun reported => by cases reported
    · exact fun reported => by cases reported
  · refine iff_of_true ?_ flagged
    have unflagged : deniedResult step.toPlanStep
        (.json (.obj (stepDict (step.actionTool.getD "") (.executed result (.ok (.dict d)))))) =
          none :=
      if_neg fun both => by
        rw [flag] at both
        exact flagged both.2
    simp only [stepOutcome, unflagged]
    rfl

end

/-! ## Agreement -/

def invocations (log : List Event) : List WriteCall :=
  log.filterMap fun
    | .invoked call => some call
    | .persisted _ => none

def records (log : List Event) : List AuditRecord :=
  log.filterMap fun
    | .invoked _ => none
    | .persisted record => some record

def unstamped (record : AuditRecord) : AuditRecord :=
  { record with auditId := "", timestampIso := "" }

def reportedSuccess (x : Eff PyExc Event AgentResult) : Option Bool :=
  match x.out with
  | .ok result => result.toolCalls.head?.map ToolCall.success
  | .error _ => none

def Executed (log : List Event) : Prop :=
  invocations log ≠ [] ∧ ∃ record ∈ records log, record.executionSucceeded = some true

/-- The standalone agent and the node of a plan step do, record and report the same, and truly. -/
structure PathsAgree (standalone : Eff PyExc Event AgentResult) (planned : Eff PyExc Event Update) :
    Prop where
  invoked : invocations standalone.log = invocations planned.log
  audited : (records standalone.log).map unstamped = (records planned.log).map unstamped
  reported : reportedSuccess standalone = callSuccess planned.out
  standaloneTrue : reportedSuccess standalone = some true ↔ Executed standalone.log
  plannedTrue : callSuccess planned.out = some true ↔ Executed planned.log

/-- The tool returns a dict that reports success and does not look like a denial. -/
def Plain : Except PyExc Returned → Prop
  | .ok (.dict d) => succeeded d = true ∧ ¬ Flagged d
  | _ => False

theorem plain_iff {x : Except PyExc Returned} :
    Plain x ↔ ∃ d, x = .ok (.dict d) ∧ succeeded d = true ∧ ¬ Flagged d := by
  constructor
  · intro plain
    rcases x with e | (d | _)
    · cases plain
    · exact ⟨d, rfl, plain⟩
    · cases plain
  · rintro ⟨d, rfl, plain⟩
    exact plain

theorem records_calls_append (w : World) (tool : ActionTool) (args : Dict) (log : List Event) :
    records (calls w tool args ++ log) = records log := by
  rw [calls_eq]
  cases w.langChain.makeCall tool args <;> rfl

section
variable {rt : Runtime} {w : World} {tool : ActionTool} {input : InnerSafetyInput}

theorem reportedSuccess_eq {x : Eff PyExc Event Attempt} {report : Attempt → AgentResult}
    (reports : ∀ a, (report a).toolCalls.map ToolCall.success = [standaloneReport a]) {a : Attempt}
    (ended : x.out = .ok a) :
    reportedSuccess (x >>= fun a => pure (report a)) = some (standaloneReport a) := by
  rw [reportedSuccess, Eff.bind_ok ended]
  show (report a).toolCalls.head?.map _ = _
  rw [← List.head?_map, reports a]
  rfl

theorem agree_denied (step : ActionStep name args) (stamp stamp' : Stamp) {blocking : LayerResult}
    (results results' : List LayerResult) {report : Attempt → AgentResult}
    (reports : ∀ a, (report a).toolCalls.map ToolCall.success = [standaloneReport a]) :
    let x (stamp : Stamp) (results : List LayerResult) : Eff PyExc Event Attempt :=
      ⟨[.persisted (denial stamp input blocking results).audit],
        .ok (.denied (denial stamp input blocking results))⟩
    PathsAgree (x stamp results >>= fun a => pure (report a))
      (plannedUpdate step.toPlanStep (x stamp' results')) := by
  intro x
  have standalone : reportedSuccess (x stamp results >>= fun a => pure (report a)) = some false :=
    reportedSuccess_eq (x := x stamp results) (a := .denied _) reports rfl
  have planned : callSuccess (plannedUpdate step.toPlanStep (x stamp' results')).out = some false :=
    callSuccess_denied step _
  refine ⟨rfl, rfl, standalone.trans planned.symm, ?_, ?_⟩
  · rw [standalone]
    exact iff_of_false (by simp) fun executed => executed.1 rfl
  · rw [planned]
    exact iff_of_false (by simp) fun executed => executed.1 rfl

def executedAttempt (w : World) (stamp : Stamp) (input : InnerSafetyInput) (tool : ActionTool)
    (results : List LayerResult) : Eff PyExc Event Attempt :=
  ⟨calls w tool input.toolArgs ++ [.persisted (executionRecord (innerAllAllowed stamp input results)
      (outcome w tool input.toolArgs))],
    .ok (.executed (innerAllAllowed stamp input results) (outcome w tool input.toolArgs))⟩

variable (w tool input) in
theorem executedAttempt_records (stamp : Stamp) (results : List LayerResult) :
    records (executedAttempt w stamp input tool results).log =
      [executionRecord (innerAllAllowed stamp input results) (outcome w tool input.toolArgs)] :=
  records_calls_append w tool input.toolArgs _

theorem plain_called {args : Dict} (plain : Plain (outcome w tool args)) :
    ∃ call, calls w tool args = [.invoked call] := by
  obtain ⟨d, done, -⟩ := plain_iff.mp plain
  obtain ⟨call, -, made, -⟩ := outcome_ok done
  exact ⟨call, by rw [calls_eq, made]⟩

theorem executed_of_plain (plain : Plain (outcome w tool input.toolArgs)) (stamp : Stamp)
    (results : List LayerResult) : Executed (executedAttempt w stamp input tool results).log := by
  obtain ⟨call, called⟩ := plain_called plain
  obtain ⟨d, done, success, -⟩ := plain_iff.mp plain
  refine ⟨?_, _, executedAttempt_records w tool input stamp results ▸ List.mem_singleton_self _, ?_⟩
  · rw [executedAttempt, called]
    exact nofun
  · rw [done]
    exact congrArg some success

variable (w tool input) in
theorem succeeded_of_executed (stamp : Stamp) (results : List LayerResult)
    (executed : Executed (executedAttempt w stamp input tool results).log) :
    (stepExecution "" (outcome w tool input.toolArgs)).2.1 = true := by
  obtain ⟨-, record, mem, succeeded⟩ := executed
  rw [executedAttempt_records] at mem
  rw [List.mem_singleton.mp mem] at succeeded
  exact Option.some.inj succeeded

theorem agree_executed (step : ActionStep name args) (stamp stamp' : Stamp)
    (results results' : List LayerResult) {report : Attempt → AgentResult}
    (reports : ∀ a, (report a).toolCalls.map ToolCall.success = [standaloneReport a])
    (handled : outcome w tool input.toolArgs ≠ .ok .toolMessage) :
    PathsAgree (executedAttempt w stamp input tool results >>= fun a => pure (report a))
      (plannedUpdate step.toPlanStep (executedAttempt w stamp' input tool results')) ↔
      Plain (outcome w tool input.toolArgs) := by
  have standalone : reportedSuccess (executedAttempt w stamp input tool results >>= fun a =>
      pure (report a)) = some (outcome w tool input.toolArgs).isOk :=
    reportedSuccess_eq (a := .executed _ (outcome w tool input.toolArgs)) reports rfl
  have log := Eff.map_log (executedAttempt w stamp input tool results) report
  constructor
  · intro agree
    have claimed := agree.standaloneTrue
    have answered := agree.reported
    rw [standalone] at claimed answered
    rw [log] at claimed
    have succeeds := succeeded_of_executed w tool input stamp results
    cases done : outcome w tool input.toolArgs with
    | error e =>
        have planned := callSuccess_raised step (innerAllAllowed stamp' input results') (.error e) rfl
        rw [← done] at planned
        rw [done] at answered
        cases answered.trans planned
    | ok returned =>
        rw [done] at answered claimed succeeds
        cases returned with
        | toolMessage => exact absurd done handled
        | dict d =>
            have planned := callSuccess_returned step (innerAllAllowed stamp' input results') d
            rw [← done] at planned
            exact ⟨succeeds (claimed.mp rfl), planned.mp answered.symm⟩
  · intro plain
    obtain ⟨call, called⟩ := plain_called plain
    obtain ⟨d, done, -, unflagged⟩ := plain_iff.mp plain
    have planned : callSuccess (plannedUpdate step.toPlanStep
        (executedAttempt w stamp' input tool results')).out = some true := by
      have reported := callSuccess_returned step (innerAllAllowed stamp' input results') d
      rw [← done] at reported
      exact reported.mpr unflagged
    have returns : (outcome w tool input.toolArgs).isOk = true := by rw [done]; rfl
    rw [returns] at standalone
    refine ⟨?_, ?_, standalone.trans planned.symm, ?_, ?_⟩
    · rw [log]
      simp only [executedAttempt, plannedUpdate, called]
      rfl
    · rw [log]
      simp only [executedAttempt, plannedUpdate, records_calls_append]
      rfl
    · rw [log, standalone]
      exact iff_of_true rfl (executed_of_plain plain stamp results)
    · rw [planned]
      exact iff_of_true rfl (executed_of_plain plain stamp' results')

theorem lost_disagrees (step : ActionStep name args) (stamp : Stamp) (results : List LayerResult)
    {log : List Event} {e : PyExc} {report : Attempt → AgentResult}
    (message : outcome w tool input.toolArgs = .ok .toolMessage) :
    ¬ PathsAgree (⟨log, .error e⟩ >>= fun a => pure (report a))
      (plannedUpdate step.toPlanStep (executedAttempt w stamp input tool results)) := by
  intro agree
  have planned := callSuccess_raised step (innerAllAllowed stamp input results) (.ok .toolMessage) rfl
  rw [← message] at planned
  have answered : none = some true := agree.reported.trans planned
  cases answered

end

/-- The paths agree exactly when the gate denies or the function returns a plain success. -/
theorem paths_agree_iff (rt : Runtime) (w : World) (stamp' : Stamp) (tool : ActionTool)
    (args : Dict) (reply : ToolReply (toolName tool) args) (step : ActionStep (toolName tool) args)
    (userId sessionId userRole text : String) (outputs : StepOutputs) (calls : List ToolCall)
    (query reasoning solver : PlanStep → StepOutputs → Except PyExc StepValue)
    (verdict : ∃ result, (innerSafetyCheck rt w.readCourseState w.stamp
      (inputOf (sessionOf userId sessionId userRole) (toolName tool) args)).out = .ok result) :
    PathsAgree (runActionAgent rt w reply.reply (view userId sessionId userRole text))
        (makeStepNode (planHandlers rt (fun _ => { w with stamp := stamp' }) query reasoning solver)
          step.toPlanStep ⟨outputs, calls, some (sessionOf userId sessionId userRole)⟩) ↔
      (AllAllowed rt w.readCourseState
          (inputOf (sessionOf userId sessionId userRole) (toolName tool) args) →
        Plain (outcome w tool args)) := by
  obtain ⟨result, verdict⟩ := verdict
  obtain ⟨report, standalone, reported⟩ :=
    runActionAgent_eq rt w userId sessionId userRole text reply
  have reports := reported (by cases tool <;> decide)
  rw [standalone, makeStepNode_eq rt step _ query reasoning solver _ _ rfl]
  generalize input_eq : inputOf (sessionOf userId sessionId userRole) (toolName tool) args = input
    at verdict
  have name : input.toolName = toolName tool := input_eq ▸ rfl
  have arguments : input.toolArgs = args := input_eq ▸ rfl
  have same : Plain (outcome w tool args) ↔ Plain (outcome w tool input.toolArgs) := by
    rw [arguments]
  have run := attemptRun .standalone rt w input
  have run' := attemptRun .planned rt { w with stamp := stamp' } input
  generalize attempt .standalone rt w input = x at run
  generalize attempt .planned rt { w with stamp := stamp' } input = x' at run'
  cases run with
  | raised raises => exact absurd raises (verdict_not_raises verdict)
  | denied results first =>
      cases run' with
      | raised raises => exact absurd raises first.not_raises
      | executed _ _ allowed => exact absurd allowed first.not_allowed
      | lost _ planned => cases planned
      | denied results' first' =>
          obtain rfl := first.unique first'
          exact iff_of_true (agree_denied step _ _ _ _ reports)
            fun allowed => absurd allowed first.not_allowed
  | executed tool₁ results allowed name₁ handled =>
      cases run' with
      | raised raises => exact absurd raises allowed.not_raises
      | denied _ first => exact absurd allowed first.not_allowed
      | lost _ planned => cases planned
      | executed tool₂ results' _ name₂ =>
          obtain rfl := toolName_inj (name.symm.trans name₁)
          obtain rfl := toolName_inj (name.symm.trans name₂)
          rw [same]
          exact (agree_executed step _ _ results results' reports (handled rfl)).trans
            ⟨fun plain _ => plain, fun plain => plain allowed⟩
  | lost tool₁ _ allowed name₁ message =>
      cases run' with
      | raised raises => exact absurd raises allowed.not_raises
      | denied _ first => exact absurd allowed first.not_allowed
      | lost _ planned => cases planned
      | executed tool₂ results' _ name₂ =>
          obtain rfl := toolName_inj (name.symm.trans name₁)
          obtain rfl := toolName_inj (name.symm.trans name₂)
          rw [same]
          refine iff_of_false (lost_disagrees step _ results' message) fun plain => ?_
          rw [message] at plain
          exact plain allowed

/-! An add to an open course, whose function returns or raises. -/

open WriteGate (noStep)

def addToolReply : ToolReply (toolName .enrollmentModify) WriteGate.addArgs where
  raw := "\x7b\"tool\": \"enrollment_modify\", \"arguments\": \x7b\"student_id\": " ++
    "\"S001\", \"course_id\": \"CS101\", \"action\": \"add\"\x7d\x7d"
  decision := [("tool", .str "enrollment_modify"), ("arguments", .obj WriteGate.addArgs)]
  direct := rfl
  tool := rfl
  arguments := rfl

def addStep : ActionStep (toolName .enrollmentModify) WriteGate.addArgs where
  toPlanStep := WriteGate.addStep
  action := rfl
  tool := rfl
  arguments := rfl

def raisingWorld : World :=
  { WriteGate.openWorld with functions := fun _ => .error ⟨.valueError, "Cannot invoke RPC on closed channel!"⟩ }

theorem raising_tool_disagrees : ¬ PathsAgree
    (runActionAgent .ascii raisingWorld addToolReply.reply
      (view "S001" "session-1" "student" "Enroll me in CS101"))
    (makeStepNode (planHandlers .ascii (fun _ => raisingWorld) noStep noStep noStep)
      addStep.toPlanStep ⟨∅, [], some (sessionOf "S001" "session-1" "student")⟩) := by
  intro agree
  have reported : some false = some true := agree.reported
  cases reported

theorem returning_tool_agrees : PathsAgree
    (runActionAgent .ascii WriteGate.openWorld addToolReply.reply
      (view "S001" "session-1" "student" "Enroll me in CS101"))
    (makeStepNode
      (planHandlers .ascii (fun _ => { WriteGate.openWorld with stamp := ⟨"fedcba987654", "t"⟩ })
        noStep noStep noStep)
      addStep.toPlanStep ⟨∅, [], some (sessionOf "S001" "session-1" "student")⟩) :=
  (paths_agree_iff .ascii WriteGate.openWorld ⟨"fedcba987654", "t"⟩ .enrollmentModify
    WriteGate.addArgs addToolReply addStep "S001" "session-1" "student" "Enroll me in CS101" ∅ []
    noStep noStep noStep ⟨_, rfl⟩).mpr fun _ => ⟨rfl, nofun⟩

end RealityAI.Proof.ActionPaths
