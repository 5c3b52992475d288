import RealityAI.Proof.InnerSafety

/-!
# Both action paths make the same attempt

An attempt decides, executes and audits. The action step of a plan and the nodes of the standalone
subgraph each make one, and only report it in different ways.
-/

namespace RealityAI.Proof.ActionAgent
open Library Library.Superstep Python Model.Safety Model.Schemas Model.State Model.PlanningAgent
open Model.ActionAgent InnerSafety

inductive Path where
  | standalone | planned

inductive Attempt where
  | denied (result : InnerSafetyResult)
  | executed (result : InnerSafetyResult) (returned : Except PyExc Returned)

def executionRecord (result : InnerSafetyResult) (returned : Except PyExc Returned) : AuditRecord :=
  let outcome := (stepExecution "" returned).2
  updateAuditForExecution result.audit outcome.1 outcome.2

/-- Only an action step handles what a `ToolMessage` raises. -/
def audited (path : Path) (result : InnerSafetyResult) (returned : Except PyExc Returned) :
    Eff PyExc Event Attempt :=
  match path, returned with
  | .standalone, .ok .toolMessage => Eff.raise noGet
  | _, _ => ⟨[.persisted (executionRecord result returned)], .ok (.executed result returned)⟩

def attempt (path : Path) (rt : Runtime) (w : World) (input : InnerSafetyInput) :
    Eff PyExc Event Attempt := do
  let result ← innerSafetyCheck rt w.readCourseState w.stamp input
  if result.finalDecision = .deny then return .denied result
  else
    let tool ← Eff.lift (findTool rt (.str input.toolName))
    let returned := invokeTool w tool (.obj input.toolArgs)
    ⟨returned.log ++ (audited path result returned.out).log, (audited path result returned.out).out⟩

/-! ## What a tool does -/

def outcome (w : World) (tool : ActionTool) (args : Dict) : Except PyExc Returned :=
  (invokeTool w tool (.obj args)).out

def calls (w : World) (tool : ActionTool) (args : Dict) : List Event :=
  (invokeTool w tool (.obj args)).log

theorem calls_eq (w : World) (tool : ActionTool) (args : Dict) : calls w tool args =
    match w.langChain.makeCall tool args with
    | .ok call => [.invoked call]
    | .error _ => [] := by
  unfold calls invokeTool
  dsimp only
  cases w.langChain.makeCall tool args with
  | error e => rfl
  | ok call =>
      show (Eff.emit (Event.invoked call) >>= fun _ => _ : Eff PyExc Event Returned).log = _
      rw [Eff.bind_ok (by rfl), Eff.bind_lift_log, Eff.lift_log]
      rfl

theorem mem_calls {w : World} {tool : ActionTool} {args : Dict} {event : Event} :
    event ∈ calls w tool args ↔
      ∃ call, event = .invoked call ∧ w.langChain.makeCall tool args = .ok call := by
  rw [calls_eq]
  cases w.langChain.makeCall tool args <;> simp

theorem outcome_eq (w : World) (tool : ActionTool) (args : Dict) : outcome w tool args =
    (w.langChain.makeCall tool args >>= fun call => w.functions call >>= w.langChain.handBack args) := by
  unfold outcome invokeTool
  dsimp only
  cases w.langChain.makeCall tool args with
  | error e => rfl
  | ok call =>
      show (Eff.emit (Event.invoked call) >>= fun _ => _ : Eff PyExc Event Returned).out =
        (w.functions call >>= w.langChain.handBack args)
      rw [Eff.bind_ok (by rfl)]
      dsimp only
      cases w.functions call with
      | error e => rfl
      | ok raw => exact Eff.lift_out _

theorem outcome_ok {w : World} {tool : ActionTool} {args : Dict} {returned : Returned}
    (ok : outcome w tool args = .ok returned) : ∃ call raw,
      w.langChain.makeCall tool args = .ok call ∧ w.functions call = .ok raw ∧
      w.langChain.handBack args raw = .ok returned := by
  rw [outcome_eq] at ok
  obtain ⟨call, made, ok⟩ := bind_ok.mp ok
  obtain ⟨raw, ran, handed⟩ := bind_ok.mp ok
  exact ⟨call, raw, made, ran, handed⟩

/-- The standalone agent does not get to the record of such an attempt. -/
def Lost (rt : Runtime) (w : World) (input : InnerSafetyInput) : Prop :=
  AllAllowed rt w.readCourseState input ∧
    ∃ tool, input.toolName = toolName tool ∧ outcome w tool input.toolArgs = .ok .toolMessage

section
variable (path : Path) (rt : Runtime) (w : World) (input : InnerSafetyInput)

inductive AttemptRun : Eff PyExc Event Attempt → Prop
  | raised {e : PyExc} : FormatRaises rt input e → AttemptRun ⟨[], .error e⟩
  | denied {blocking : LayerResult} (layerResults : List LayerResult) :
      FirstDenial rt w.readCourseState input blocking →
      AttemptRun ⟨[.persisted (denial w.stamp input blocking layerResults).audit],
        .ok (.denied (denial w.stamp input blocking layerResults))⟩
  | executed (tool : ActionTool) (layerResults : List LayerResult) :
      AllAllowed rt w.readCourseState input → input.toolName = toolName tool →
      (path = .standalone → outcome w tool input.toolArgs ≠ .ok .toolMessage) →
      AttemptRun ⟨calls w tool input.toolArgs ++ [.persisted (executionRecord
          (innerAllAllowed w.stamp input layerResults) (outcome w tool input.toolArgs))],
        .ok (.executed (innerAllAllowed w.stamp input layerResults)
          (outcome w tool input.toolArgs))⟩
  | lost (tool : ActionTool) : path = .standalone →
      AllAllowed rt w.readCourseState input → input.toolName = toolName tool →
      outcome w tool input.toolArgs = .ok .toolMessage →
      AttemptRun ⟨calls w tool input.toolArgs, .error noGet⟩

theorem findTool_toolName (tool : ActionTool) :
    findTool rt (.str (toolName tool)) = .ok tool := by
  cases tool <;> rfl

theorem allowed_registered {rt : Runtime} {readCourseState : ReadCourse} {input : InnerSafetyInput}
    (allowed : AllAllowed rt readCourseState input) : ∃ tool, input.toolName = toolName tool := by
  obtain ⟨required, known, -⟩ := presence_required allowed.presence
  obtain ⟨l₁, l₂, split, -⟩ := List.lookup_eq_some_iff.mp known
  have mem : (input.toolName, required) ∈ requiredArgs := by
    rw [split]
    exact List.mem_append_right _ List.mem_cons_self
  have listed : input.toolName ∈ requiredArgs.map Prod.fst := List.mem_map_of_mem mem
  simp only [requiredArgs, List.map_cons, List.map_nil, List.mem_cons, List.not_mem_nil,
    or_false] at listed
  rcases listed with name | name | name
  · exact ⟨.gradeUpdate, name⟩
  · exact ⟨.enrollmentModify, name⟩
  · exact ⟨.assignmentCreate, name⟩

theorem audited_eq (result : InnerSafetyResult) (returned : Except PyExc Returned)
    (handled : path = .standalone → returned ≠ .ok .toolMessage) : audited path result returned =
      ⟨[.persisted (executionRecord result returned)], .ok (.executed result returned)⟩ := by
  unfold audited
  split
  · exact absurd rfl (handled rfl)
  · rfl

theorem attemptRun : AttemptRun path rt w input (attempt path rt w input) := by
  have run := gateRun rt w.readCourseState w.stamp input
  unfold attempt
  generalize innerSafetyCheck rt w.readCourseState w.stamp input = gate at run
  cases run with
  | raised raises => exact .raised raises
  | denied layerResults first => exact .denied layerResults first
  | allowed layerResults allowed =>
      obtain ⟨tool, name⟩ := allowed_registered allowed
      rw [name, findTool_toolName]
      by_cases handled : path = .standalone → outcome w tool input.toolArgs ≠ .ok .toolMessage
      · have run := AttemptRun.executed tool layerResults allowed name handled
        have record := audited_eq path (innerAllAllowed w.stamp input layerResults) _ handled
        show AttemptRun path rt w input ⟨_ ++ (audited path _ (outcome w tool input.toolArgs)).log,
          (audited path _ (outcome w tool input.toolArgs)).out⟩
        rwa [record]
      · obtain ⟨standalone, message⟩ := Classical.not_imp.mp handled
        have run := AttemptRun.lost tool standalone allowed name (not_not.mp message)
        show AttemptRun path rt w input ⟨_ ++ (audited path _ (outcome w tool input.toolArgs)).log,
          (audited path _ (outcome w tool input.toolArgs)).out⟩
        rw [not_not.mp message, standalone]
        show AttemptRun .standalone rt w input ⟨calls w tool input.toolArgs ++ [], .error noGet⟩
        rw [List.append_nil, ← standalone]
        exact run

end

/-! ## The action step of a plan -/

def stepInput (step : PlanStep) (session : Option SessionContext) : InnerSafetyInput where
  session := session.getD defaultPlanSession
  toolName := step.actionTool.getD ""
  toolArgs := step.actionArgs.getD []

def stepDict (operation : String) : Attempt → Dict
  | .denied result => deniedByInnerSafety operation result
  | .executed result returned =>
      (stepExecution operation returned).1.set "audit_id" (.str result.audit.auditId)

theorem stepExecution_snd (operation : String) (returned : Except PyExc Returned) :
    (stepExecution operation returned).2 = (stepExecution "" returned).2 := by
  unfold stepExecution
  cases returned >>= Returned.asDict <;> rfl

theorem runActionStep_eq (rt : Runtime) (w : World) (step : PlanStep)
    (session : Option SessionContext) {tool : ActionTool}
    (known : actionTools.lookup (step.actionTool.getD "") = some tool) :
    runActionStep rt w step session =
      attempt .planned rt w (stepInput step session) >>= fun a =>
        pure (stepDict (step.actionTool.getD "") a) := by
  have name := lookup_actionTools known
  have some : step.actionTool.getD "" ≠ "" := by
    rw [name]
    cases tool <;> decide
  have run := gateRun rt w.readCourseState w.stamp (stepInput step session)
  unfold runActionStep attempt
  rw [if_neg some, known]
  show innerSafetyCheck rt w.readCourseState w.stamp (stepInput step session) >>= _ = _
  generalize innerSafetyCheck rt w.readCourseState w.stamp (stepInput step session) = gate at run
  cases run with
  | raised => rfl
  | denied => rfl
  | allowed layerResults =>
      have found : findTool rt (.str (stepInput step session).toolName) = .ok tool := by
        rw [← findTool_toolName rt tool, ← name]
        rfl
      rw [found]
      let result := innerAllAllowed w.stamp (stepInput step session) layerResults
      let returned := outcome w tool (step.actionArgs.getD [])
      have record := audited_eq .planned result returned nofun
      show _ = ((⟨calls w tool (step.actionArgs.getD []) ++ (audited .planned result returned).log,
        (audited .planned result returned).out⟩ : Eff PyExc Event Attempt) >>= fun a =>
          pure (stepDict (step.actionTool.getD "") a))
      rw [record, Eff.map_ok (by rfl)]
      unfold executionRecord
      rw [← stepExecution_snd (step.actionTool.getD "")]
      rfl

/-! ## The standalone subgraph -/

def attempted (s : InternalState) : Attempt → InternalState
  | .denied result =>
      { s with
        innerSafetyResult := some result
        responseText := some ((Json.str result.finalReasonHuman).or (.str result.finalReasonCode))
        success := some false }
  | .executed result returned =>
      { toolOutcome s returned with
        innerSafetyResult := some { result with audit := executionRecord result returned } }

def finalState (rt : Runtime) (s : InternalState) : InternalState := (finalText rt s).toOption.getD s

theorem finalText_ok (rt : Runtime) {s : InternalState} {raw : Dict} (ok : s.rawDict = .ok raw) :
    finalText rt s = .ok (finalState rt s) := by
  unfold finalState finalText
  rw [ok]
  split <;> rfl

theorem finalOutcome_toolOutcome {s : InternalState} (quiet : s.executionError = none)
    (returned : Except PyExc Returned) : finalOutcome (toolOutcome s returned) =
      match returned with
      | .ok .toolMessage => .error noGet
      | _ => .ok (stepExecution "" returned).2 := by
  cases returned with
  | error e =>
      have error : executionError (toolOutcome s (.error e)) false = .ok (.str e.text) := by
        unfold executionError
        by_cases silent : e.text = ""
        · simp [toolOutcome, silent, Json.truthy, InternalState.rawDict, Returned.asDict]
          rfl
        · simp [toolOutcome, silent, Json.truthy]
      show (executionError (toolOutcome s (.error e)) false >>= fun error => .ok (false, error)) = _
      rw [error]
      rfl
  | ok handed =>
      cases handed with
      | toolMessage => rfl
      | dict raw =>
          have error : executionError (toolOutcome s (.ok (.dict raw))) (succeeded raw) =
              .ok (if succeeded raw then .null else raw.get "message") := by
            unfold executionError
            cases succeeded raw <;>
              simp [toolOutcome, quiet, Json.truthy, InternalState.rawDict, Returned.asDict,
                Except.map]
          show (executionError (toolOutcome s (.ok (.dict raw))) (succeeded raw) >>= fun error =>
            .ok (succeeded raw, error)) = _
          rw [error]
          rfl

variable (rt : Runtime) (w : World) {s : InternalState}

theorem gatedNodes_skipped (fresh : s.innerSafetyResult = none) (skipped : nothingToGate s = true) :
    gatedNodes rt w s = pure s := by
  have written : s.response.truthy = true := (Bool.and_eq_true _ _ ▸ skipped).1
  unfold gatedNodes innerSafetyNode
  rw [if_pos skipped, Eff.pure_bind']
  simp only [executeActionTool, finalizeAudit, recordExecution, fresh, Eff.pure_bind', finalText,
    written]
  rfl

theorem gatedNodes_invalid (gated : nothingToGate s = false) {e : PyExc} (invalid : gateInput s = .error e) :
    gatedNodes rt w s = Eff.raise e := by
  unfold gatedNodes innerSafetyNode
  rw [gated, if_neg Bool.false_ne_true, invalid]
  rfl

theorem gateInput_args {input : InnerSafetyInput} (valid : gateInput s = .ok input) :
    (s.toolArguments.getD (.obj [])).or (.obj []) = .obj input.toolArgs := by
  unfold gateInput at valid
  obtain ⟨name, -, valid⟩ := bind_ok.mp valid
  obtain ⟨args, dict, valid⟩ := bind_ok.mp valid
  cases valid
  unfold dictField at dict
  split at dict
  · rename_i d same
    rw [same, Except.ok.inj dict]
  · cases dict

theorem gateInput_name {input : InnerSafetyInput} (valid : gateInput s = .ok input) :
    (s.selectedTool.getD (.str "")).or (.str "") = .str input.toolName := by
  unfold gateInput at valid
  obtain ⟨name, text, valid⟩ := bind_ok.mp valid
  obtain ⟨args, -, valid⟩ := bind_ok.mp valid
  cases valid
  unfold strField at text
  split at text
  · rename_i d same
    rw [same, Except.ok.inj text]
  · cases text

theorem selectedTool_eq {input : InnerSafetyInput} (valid : gateInput s = .ok input)
    (some : input.toolName ≠ "") : s.selectedTool.getD (.str "") = .str input.toolName := by
  have name := gateInput_name valid
  unfold Json.or at name
  split at name
  · exact name
  · exact absurd (Json.str.inj name).symm some

theorem executeActionTool_allowed {result : InnerSafetyResult} {tool : ActionTool} {args : Dict}
    (gated : s.innerSafetyResult = some result) (allow : result.finalDecision = .allow)
    (known : findTool rt (s.selectedTool.getD (.str "")) = .ok tool)
    (dict : (s.toolArguments.getD (.obj [])).or (.obj []) = .obj args) :
    executeActionTool rt w s =
      ⟨calls w tool args, .ok (toolOutcome s (outcome w tool args))⟩ := by
  unfold executeActionTool
  simp only [gated, allow, known, dict]
  show (pure tool >>= fun tool => _) = _
  rw [Eff.pure_bind']
  rfl

theorem finalizeAudit_ok {result : InnerSafetyResult} {recorded : Bool × Json} {raw : Dict}
    (gated : s.innerSafetyResult = some result) (allow : result.finalDecision = .allow)
    (known : finalOutcome s = .ok recorded) (dict : s.rawDict = .ok raw) :
    let record := updateAuditForExecution result.audit recorded.1 recorded.2
    finalizeAudit rt s = ⟨[.persisted record], .ok (finalState rt
      { s with innerSafetyResult := some { result with audit := record } })⟩ := by
  intro record
  have text := finalText_ok rt
    (s := { s with innerSafetyResult := some { result with audit := record } }) dict
  unfold finalizeAudit recordExecution
  simp only [gated, if_pos allow, known]
  show Eff.emit (Event.persisted record) >>= (fun _ => Eff.lift (finalText rt _)) = _
  rw [text]
  rfl

theorem finalizeAudit_lost {result : InnerSafetyResult} {e : PyExc}
    (gated : s.innerSafetyResult = some result) (allow : result.finalDecision = .allow)
    (lost : finalOutcome s = .error e) : finalizeAudit rt s = Eff.raise e := by
  unfold finalizeAudit recordExecution
  simp only [gated, if_pos allow, lost]
  rfl

theorem finalizeAudit_toolOutcome (result : InnerSafetyResult) (quiet : s.executionError = none)
    (allow : result.finalDecision = .allow) (returned : Except PyExc Returned) :
    finalizeAudit rt (toolOutcome { s with innerSafetyResult := some result } returned) =
      audited .standalone result returned >>= fun a => pure (finalState rt (attempted s a)) := by
  have known := finalOutcome_toolOutcome
    (s := { s with innerSafetyResult := some result }) quiet returned
  cases returned with
  | error e => exact finalizeAudit_ok rt rfl allow known rfl
  | ok handed =>
      cases handed with
      | toolMessage => exact finalizeAudit_lost rt rfl allow known
      | dict raw => exact finalizeAudit_ok rt rfl allow known rfl

theorem executed_eq (result : InnerSafetyResult) {tool : ActionTool} {args : Dict}
    (quiet : s.executionError = none) (allow : result.finalDecision = .allow)
    (known : findTool rt (s.selectedTool.getD (.str "")) = .ok tool)
    (dict : (s.toolArguments.getD (.obj [])).or (.obj []) = .obj args) :
    (executeActionTool rt w { s with innerSafetyResult := some result } >>= finalizeAudit rt) =
      (⟨calls w tool args ++ (audited .standalone result (outcome w tool args)).log,
        (audited .standalone result (outcome w tool args)).out⟩ >>= fun a =>
          pure (finalState rt (attempted s a)) : Eff PyExc Event InternalState) := by
  have executed := executeActionTool_allowed rt w
    (s := { s with innerSafetyResult := some result }) rfl allow known dict
  rw [executed, Eff.bind_ok (by rfl)]
  dsimp only
  rw [finalizeAudit_toolOutcome rt result quiet allow, Eff.prepend_bind]

theorem deniedNodes_eq (unran : s.rawToolResult = none) (result : InnerSafetyResult)
    (deny : result.finalDecision = .deny) :
    (executeActionTool rt w (attempted s (.denied result)) >>= finalizeAudit rt) =
      pure (finalState rt (attempted s (.denied result))) := by
  have dict : (attempted s (.denied result)).rawDict = .ok [] := by
    show (s.rawToolResult.getD _).asDict = _
    rw [unran]
    rfl
  have text := finalText_ok rt dict
  have quiet : executeActionTool rt w (attempted s (.denied result)) =
      pure (attempted s (.denied result)) := if_pos deny
  have unrecorded : recordExecution (attempted s (.denied result)) =
      pure (attempted s (.denied result)) := if_neg (by rw [deny]; exact nofun)
  rw [quiet, Eff.pure_bind']
  unfold finalizeAudit
  rw [unrecorded, Eff.pure_bind', text]
  rfl

theorem gatedNodes_eq (quiet : s.executionError = none) (unran : s.rawToolResult = none)
    (gated : nothingToGate s = false) {input : InnerSafetyInput} (valid : gateInput s = .ok input) :
    gatedNodes rt w s =
      attempt .standalone rt w input >>= fun a => pure (finalState rt (attempted s a)) := by
  have run := gateRun rt w.readCourseState w.stamp input
  unfold gatedNodes innerSafetyNode attempt
  rw [gated, if_neg Bool.false_ne_true, valid]
  show (innerSafetyCheck rt w.readCourseState w.stamp input >>= _) >>= _ = _
  generalize innerSafetyCheck rt w.readCourseState w.stamp input = gate at run
  cases run with
  | raised => rfl
  | @denied blocking layerResults =>
      have rest := deniedNodes_eq rt w unran (denial w.stamp input blocking layerResults) rfl
      exact congrArg (fun x => (⟨[_] ++ x.log, x.out⟩ : Eff PyExc Event InternalState)) rest
  | allowed layerResults allowed =>
      obtain ⟨tool, name⟩ := allowed_registered allowed
      have some : input.toolName ≠ "" := by
        rw [name]
        cases tool <;> decide
      have known : findTool rt (s.selectedTool.getD (.str "")) = .ok tool := by
        rw [selectedTool_eq valid some, name, findTool_toolName]
      have executed := executed_eq rt w (innerAllAllowed w.stamp input layerResults)
        quiet rfl known (gateInput_args valid)
      rw [name, findTool_toolName]
      exact executed

end RealityAI.Proof.ActionAgent
