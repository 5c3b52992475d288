import RealityAI.Proof.Plan.Agent
import RealityAI.Proof.Plan.Failures

namespace RealityAI.Proof.Plan
open Library Python Model.Schemas Model.State Model.Safety Model.PlanningAgent Model.ActionAgent
open Model.PlanAgent

def stepKey (s : PlanStep) : String × String := (stepLabel s, (Json.obj (stepArgs s)).dumps)

def ownLine (s : PlanStep) (call : ToolCall) : String :=
  "Step " ++ toString s.stepId ++ ": " ++ s.description ++ " — " ++
    if call.success then "OK" else "FAILED (" ++ call.error.getD "None" ++ ")"

/-- The response is the report, of which the line of each step shows the call that its node returned
in the run. -/
structure Truthful (h : Handlers Event) (p : Plan) (order : Superstep.MergeOrder Update)
    (session : SessionContext) (result : PlanningResult) : Prop where
  response : result.response = .str (report p result.toolCalls)
  lines : ∀ s ∈ p.steps, ∃ call, Records h p order (some session) s call ∧
    reportLine result.toolCalls s = ownLine s call

theorem callKey_stepCall (s : PlanStep) (out : Except PyExc StepValue) :
    callKey (stepCall s out) = stepKey s := by
  cases out with
  | error e => rfl
  | ok result =>
      rw [stepCall]
      cases deniedResult s result with
      | none => rfl
      | some d => rfl

section
variable (limits : GraphLimits) (h : LawfulHandlers Event) (order : Superstep.MergeOrder Update)
variable {p : Plan} {state : AgentView} {session : SessionContext} {result : PlanningResult}

theorem planned_ok (ok : (planned limits h.toHandlers order p state).out = .ok result) :
    ∃ session, planSession state = .ok session ∧
      result = delivered p (stateAt h p order (some session) (height p)) := by
  by_cases fits : Fits limits p
  · cases known : planSession state with
    | error e =>
        unfold planned at ok
        rw [known] at ok
        cases ok
    | ok session =>
        rw [planned_fits limits h order p state known fits] at ok
        exact ⟨session, rfl, (Except.ok.inj ok).symm⟩
  · obtain ⟨e, raises⟩ := planned_unfit limits order p state fits
    rw [raises h] at ok
    cases ok

theorem failed_ne_ok (text : String) : "FAILED (" ++ text ++ ")" ≠ "OK" := by
  intro same
  have lists := congrArg (fun s => s.toList.head?) same
  simp at lists

theorem ownLine_inj {s : PlanStep} {call call' : ToolCall}
    (same : ownLine s call = ownLine s call') : call.success = call'.success := by
  rw [ownLine, ownLine, String.append_right_inj] at same
  cases done : call.success <;> cases done' : call'.success
  · rfl
  · rw [done, done'] at same
    exact absurd same (failed_ne_ok _)
  · rw [done, done'] at same
    exact absurd same.symm (failed_ne_ok _)
  · rfl

variable (session) in
theorem callOfStep_final {s : PlanStep} (mem : s ∈ p.steps) :
    ∃ s' ∈ p.steps, stepKey s' = stepKey s ∧
      callOfStep (stateAt h p order (some session) (height p)).toolCalls s =
        some (callOf h p order (some session) s') := by
  have calls := (exactlyOnce h p order (some session)).calls
  have own : callOf h p order (some session) s ∈
      (stateAt h p order (some session) (height p)).toolCalls.reverse := by
    rw [List.mem_reverse, calls.mem_iff]
    exact List.mem_map_of_mem mem
  cases found : callOfStep (stateAt h p order (some session) (height p)).toolCalls s with
  | none =>
      have never := List.find?_eq_none.mp found _ own
      exact absurd (decide_eq_true (callKey_stepCall s _)) never
  | some call =>
      have key : callKey call = stepKey s := by
        simpa using List.find?_some (p := fun call => decide (callKey call = stepKey s)) found
      have listed := List.mem_reverse.mp (List.mem_of_find?_eq_some found)
      obtain ⟨s', mem', rfl⟩ := List.mem_map.mp (calls.mem_iff.mp listed)
      exact ⟨s', mem', (callKey_stepCall s' _).symm.trans key, rfl⟩

variable (session) in
theorem reportLine_final {s : PlanStep} (mem : s ∈ p.steps) :
    ∃ s' ∈ p.steps, stepKey s' = stepKey s ∧
      reportLine (stateAt h p order (some session) (height p)).toolCalls s =
        ownLine s (callOf h p order (some session) s') := by
  obtain ⟨s', mem', key, found⟩ := callOfStep_final h order session mem
  refine ⟨s', mem', key, ?_⟩
  rw [reportLine, found]
  rfl

theorem same_success (truthful : Truthful h.toHandlers p order session
      (delivered p (stateAt h p order (some session) (height p))))
    {s s' : PlanStep} (mem : s ∈ p.steps) (mem' : s' ∈ p.steps) (same : stepKey s = stepKey s') :
    (callOf h p order (some session) s).success = (callOf h p order (some session) s').success := by
  have shown {s : PlanStep} (mem : s ∈ p.steps) :
      ∃ call, callOfStep (stateAt h p order (some session) (height p)).toolCalls s = some call ∧
        call.success = (callOf h p order (some session) s).success := by
    obtain ⟨own, recorded, line⟩ := truthful.lines s mem
    obtain ⟨other, -, -, found⟩ := callOfStep_final h order session mem
    refine ⟨_, found, ownLine_inj (s := s) ?_⟩
    rw [← (records_iff h p order _ mem own).mp recorded, ← line]
    show _ = reportLine (stateAt h p order (some session) (height p)).toolCalls s
    rw [reportLine, found]
    rfl
  obtain ⟨call, found, success⟩ := shown mem
  obtain ⟨call', found', success'⟩ := shown mem'
  have alike : callOfStep (stateAt h p order (some session) (height p)).toolCalls s =
      callOfStep (stateAt h p order (some session) (height p)).toolCalls s' := by
    show List.find? (fun call => callKey call = stepKey s) _ =
      List.find? (fun call => callKey call = stepKey s') _
    rw [same]
  rw [alike, found', Option.some.injEq] at found
  rw [← success, ← success', found]

end

def unreachable : PyExc := ⟨.other, "unreachable"⟩

def answerBut (i : Int) (step : PlanStep) : Except PyExc StepValue :=
  if step.stepId = i then .error unreachable else .ok (.json .null)

def failingAt (i : Int) : LawfulHandlers Event where
  runQueryStep step _ := answerBut i step
  runReasoningStep step _ := answerBut i step
  runSolverStep step _ := answerBut i step
  runActionStep step _ _ := if step.stepId = i then Eff.raise unreachable else pure []
  denial step _ _ d ok denied := by
    by_cases here : step.stepId = i
    · rw [if_pos here] at ok
      cases ok
    · rw [if_neg here] at ok
      cases ok
      cases denied

theorem failingAt_success (i : Int) (p : Plan) (order : Superstep.MergeOrder Update)
    (session : Option SessionContext) (s : PlanStep) :
    (callOf (failingAt i) p order session s).success = decide (s.stepId ≠ i) := by
  rw [callOf, outcomeOf_eq, dispatchStep]
  by_cases here : s.stepId = i
  · cases s.agentType with
    | query | reasoning | constraintSolver =>
        simp [failingAt, answerBut, here, stepCall]
    | action =>
        simp [failingAt, here]
        rfl
  · cases s.agentType with
    | query | reasoning | constraintSolver =>
        simp [failingAt, answerBut, here, stepCall, deniedResult]
    | action =>
        have allowed : (Dict.get [] "denied_by_inner_safety").truthy = false := rfl
        simp [failingAt, here, stepCall, deniedResult, allowed]

def anonymous : AgentView where
  messages := []
  userId := none
  sessionId := none
  userRole := none
  userQueryNormalized := none

def wideLimits (p : Plan) : GraphLimits where
  reserved _ := false
  supersteps := p.steps.length

theorem wideLimits_fits (p : Plan) : Fits (wideLimits p) p :=
  ⟨fun _ _ => rfl, (supersteps_iff _ p).mpr (height_le_length p)⟩

/-- The report shows every step as it ended, in every run, if and only if no two steps of the plan have
one label and arguments that are rendered alike. -/
theorem report_truthful_iff (p : Plan) :
    (∀ limits (h : LawfulHandlers Event) order state result,
        (planned limits h.toHandlers order p state).out = .ok result →
        ∃ session, planSession state = .ok session ∧
          Truthful h.toHandlers p order session result) ↔
      (p.steps.map stepKey).Nodup := by
  rw [List.nodup_map_iff_inj_on (steps_nodup p)]
  constructor
  · intro truthful s mem s' mem' same
    have ran := planned_fits (wideLimits p) (failingAt s.stepId) keepOrder p anonymous rfl
      (wideLimits_fits p)
    obtain ⟨session, known, shown⟩ := truthful _ _ _ _ _ ran
    cases known
    have ends := same_success (failingAt s.stepId) keepOrder shown mem mem' same
    rw [failingAt_success, failingAt_success, decide_eq_decide] at ends
    apply step_ext p mem mem'
    by_contra other
    exact ends.mpr (Ne.symm other) rfl
  · intro distinct limits h order state result ok
    obtain ⟨session, known, rfl⟩ := planned_ok limits h order ok
    refine ⟨session, known, rfl, fun s mem => ?_⟩
    obtain ⟨s', mem', key, line⟩ := reportLine_final h order session mem
    obtain rfl := distinct s' mem' s mem key
    exact ⟨_, (records_iff h p order _ mem _).mpr rfl, line⟩

/-! The sections of a term, asked for before and after the term is known. -/

def termStep : PlanStep where
  stepId := 0
  description := "Read the catalog"
  agentType := .query
  querySource := some .catalogDb
  queryParams := some [("term", .str "S26")]
  valid := rfl

def earlySections : PlanStep where
  stepId := 1
  description := "List its sections"
  agentType := .query
  querySource := some .catalogDb
  queryParams := some [("term", .str "<from_step_0>")]
  valid := rfl

def lateSections : PlanStep where
  stepId := 2
  description := "List its sections again"
  dependsOn := [0]
  agentType := .query
  querySource := some .catalogDb
  queryParams := some [("term", .str "<from_step_0>")]
  valid := rfl

def repeatedPlan : Model.Schemas.Plan where
  steps := [termStep, earlySections, lateSections]
  reasoning := "list the sections"
  accepted := accepted_of_lt (by decide) (by decide) (by decide)

theorem repeated_before :
    level repeatedPlan termStep.stepId < level repeatedPlan lateSections.stepId :=
  level_lt_of_before repeatedPlan
    ((mem_needs _).mpr ⟨lateSections, by simp [repeatedPlan], rfl, List.mem_cons_self⟩)

theorem early_level : level repeatedPlan earlySections.stepId = 0 := by
  apply Nat.le_zero.mp
  rw [level_le_iff repeatedPlan (by simp [repeatedPlan])]
  intro a dep
  cases dep

theorem early_refused {outputs : StepOutputs} (absent : outputs.lookup 0 = none) :
    ¬ Accepts mockWorld earlySections outputs := by
  rintro ⟨source, params, -, given, present, -⟩
  cases given
  have unknown : meaning mockWorld.builtins outputs (.str "<from_step_0>") = none := absent
  have known : (meaning mockWorld.builtins outputs (.str "<from_step_0>")).isSome = true :=
    present ("term", .str "<from_step_0>") List.mem_cons_self
  rw [unknown] at known
  cases known

theorem late_accepted {outputs : StepOutputs} (value : StepValue)
    (found : outputs.lookup 0 = some value) : Accepts mockWorld lateSections outputs := by
  have known : meaning mockWorld.builtins outputs (.str "<from_step_0>") = some value := found
  have items : Dict.items [("term", .str "<from_step_0>")] = [("term", .str "<from_step_0>")] := rfl
  refine ⟨.catalogDb, [("term", .str "<from_step_0>")], rfl, rfl, ?_, ?_⟩
  · rw [items]
    simp [known]
  · rw [items]
    simp only [resolved, List.map_cons, known]
    refine ⟨fun given => ?_, fun given => ?_⟩
    · cases given
    · cases given

section
variable (order : Superstep.MergeOrder Update) (session : Option SessionContext)

theorem success_iff {s : PlanStep} (query : s.agentType = .query) :
    (callOf mockHandlers repeatedPlan order session s).success = false ↔
      ¬ Accepts mockWorld s (inputOf mockHandlers repeatedPlan order session s).stepOutputs :=
  Failures.callOf_success _ _ _ _ _ _ _ _ _ _ (by simp [query])

theorem input_of_term (s : PlanStep) :
    (inputOf mockHandlers repeatedPlan order session s).stepOutputs.lookup 0 =
      if level repeatedPlan termStep.stepId < level repeatedPlan s.stepId then
        some (valueOf mockHandlers repeatedPlan order session termStep)
      else none :=
  inputOf_lookup mockHandlers repeatedPlan order session s (a := termStep) (by simp [repeatedPlan])

theorem early_fails :
    (callOf mockHandlers repeatedPlan order session earlySections).success = false := by
  apply (success_iff order session rfl).mpr
  apply early_refused
  rw [input_of_term, if_neg]
  rw [early_level]
  exact Nat.not_lt_zero _

theorem late_succeeds :
    (callOf mockHandlers repeatedPlan order session lateSections).success = true := by
  rw [← Bool.not_eq_false, success_iff order session rfl, not_not]
  apply late_accepted
  rw [input_of_term, if_pos repeated_before]

end

theorem repeated_step_misreported :
    ¬ ∀ limits (h : LawfulHandlers Event) order state result,
      (planned limits h.toHandlers order repeatedPlan state).out = .ok result →
      ∃ session, planSession state = .ok session ∧
        Truthful h.toHandlers repeatedPlan order session result := by
  intro truthful
  have ran := planned_fits (wideLimits repeatedPlan) mockHandlers keepOrder repeatedPlan anonymous rfl
    (wideLimits_fits repeatedPlan)
  obtain ⟨session, known, shown⟩ := truthful _ _ _ _ _ ran
  cases known
  have early : earlySections ∈ repeatedPlan.steps := by simp [repeatedPlan]
  have late : lateSections ∈ repeatedPlan.steps := by simp [repeatedPlan]
  have ends := same_success mockHandlers keepOrder shown early late rfl
  rw [early_fails, late_succeeds] at ends
  cases ends

end RealityAI.Proof.Plan
