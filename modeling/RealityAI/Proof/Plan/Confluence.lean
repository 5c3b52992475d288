import RealityAI.Proof.Plan.References
import RealityAI.Proof.Plan.Report

namespace RealityAI.Proof.Confluence
open Library Python Model.Schemas Model.State Model.Safety Model.PlanningAgent Model.ActionAgent
open Model.ActionTools Model.PlanSteps Model.PlanAgent Plan

/-- Results of one plan that differ in the order of the tool calls only. -/
structure SameResult (p : Model.Schemas.Plan) (result result' : PlanningResult) : Prop where
  plan : result'.plan = result.plan
  outputs : ∀ i, result'.stepOutputs.lookup i = result.stepOutputs.lookup i
  calls : result'.toolCalls.Perm result.toolCalls
  response : (p.steps.map stepKey).Nodup → result'.response = result.response

section
variable {σ : Type} (w : StepWorld) (langChain : LangChain) (client : CoreServiceClient σ)
  (service : PlanStep → σ)
variable (read : PlanStep → ReadCourse) (stamp : PlanStep → Stamp) (hex : PlanStep → String)
variable (order order' : Superstep.MergeOrder Update) {p : Model.Schemas.Plan}

theorem outcomeOf_order (session : Option SessionContext) {s : PlanStep} (mem : s ∈ p.steps) :
    outcomeOf (lawfulStepHandlers w langChain client service read stamp hex) p order' session s =
      outcomeOf (lawfulStepHandlers w langChain client service read stamp hex) p order session s := by
  apply outcomeOf_congr _ mem
  intro s' _ outputs same
  rw [outcomeOf_eq (lawfulStepHandlers w langChain client service read stamp hex)]
  exact congrArg Eff.out (dispatchStep_congr same w _ s' session)

theorem callOf_order (session : Option SessionContext) {s : PlanStep} (mem : s ∈ p.steps) :
    callOf (lawfulStepHandlers w langChain client service read stamp hex) p order' session s =
      callOf (lawfulStepHandlers w langChain client service read stamp hex) p order session s := by
  rw [callOf, callOf, outcomeOf_order w langChain client service read stamp hex order order' session mem]

theorem delivered_order (session : SessionContext) : SameResult p
    (delivered p (stateAt (lawfulStepHandlers w langChain client service read stamp hex) p order (some session)
      (height p)))
    (delivered p (stateAt (lawfulStepHandlers w langChain client service read stamp hex) p order' (some session)
      (height p))) := by
  have last := progress (lawfulStepHandlers w langChain client service read stamp hex) p order (some session)
    (height p)
  have last' := progress (lawfulStepHandlers w langChain client service read stamp hex) p order' (some session)
    (height p)
  have same {s : PlanStep} (mem : s ∈ p.steps) :=
    callOf_order w langChain client service read stamp hex order order' (some session) mem
  refine ⟨rfl, fun i => ?_, ?_, fun distinct => ?_⟩
  · by_cases inside : i ∈ stepIds p.steps
    · obtain ⟨s, mem, id⟩ := mem_stepIds.mp inside
      subst id
      refine (last'.outputs s mem).trans (Eq.trans ?_ (last.outputs s mem).symm)
      rw [valueOf, valueOf,
        outcomeOf_order w langChain client service read stamp hex order order' (some session) mem]
    · exact (last'.known i inside).trans (last.known i inside).symm
  · have calls := (exactlyOnce (lawfulStepHandlers w langChain client service read stamp hex) p order
      (some session)).calls
    have calls' := (exactlyOnce (lawfulStepHandlers w langChain client service read stamp hex) p order'
      (some session)).calls
    refine calls'.trans (List.Perm.trans (List.Perm.of_eq ?_) calls.symm)
    exact List.map_congr_left fun s mem => same mem
  · have lines (s : PlanStep) (mem : s ∈ p.steps) :
        reportLine (stateAt (lawfulStepHandlers w langChain client service read stamp hex) p order'
          (some session) (height p)).toolCalls s =
        reportLine (stateAt (lawfulStepHandlers w langChain client service read stamp hex) p order
          (some session) (height p)).toolCalls s := by
      obtain ⟨a, memA, keyA, lineA⟩ := reportLine_final
        (lawfulStepHandlers w langChain client service read stamp hex) order session mem
      obtain ⟨b, memB, keyB, lineB⟩ := reportLine_final
        (lawfulStepHandlers w langChain client service read stamp hex) order' session mem
      have one := (List.nodup_map_iff_inj_on (steps_nodup p)).mp distinct
      obtain rfl := one a memA s mem keyA
      obtain rfl := one b memB a mem keyB
      rw [lineA, lineB, same mem]
    show Json.str (report p _) = Json.str (report p _)
    rw [report, report, List.map_congr_left lines]

/-- A run of a plan does not depend on how the results of its supersteps are merged: every step has
the same output and the same tool call, and what the user reads is the same if no two steps have one
label and arguments that are rendered alike. -/
theorem plan_confluent (limits : GraphLimits) (state : AgentView) {result : PlanningResult}
    (ok : (planned limits (lawfulStepHandlers w langChain client service read stamp hex).toHandlers order p
      state).out = .ok result) :
    ∃ result', (planned limits (lawfulStepHandlers w langChain client service read stamp hex).toHandlers order' p
      state).out = .ok result' ∧ SameResult p result result' := by
  by_cases fits : Fits limits p
  · obtain ⟨session, known, rfl⟩ := planned_ok limits _ order ok
    exact ⟨_, planned_fits limits _ order' p state known fits,
      delivered_order w langChain client service read stamp hex order order' session⟩
  · obtain ⟨e, raises⟩ := planned_unfit limits order p state fits
    rw [raises (lawfulStepHandlers w langChain client service read stamp hex)] at ok
    cases ok

end

def backwards : Superstep.MergeOrder Update where
  arrange _ updates := updates.reverse
  perm _ updates := updates.reverse_perm

theorem blind_plan_confluent : ∃ result, ∃ result',
    (planned (Plan.wideLimits Failures.blindPlan) mockHandlers.toHandlers keepOrder Failures.blindPlan
      anonymous).out = .ok result ∧
    (planned (Plan.wideLimits Failures.blindPlan) mockHandlers.toHandlers backwards Failures.blindPlan
      anonymous).out = .ok result' ∧ SameResult Failures.blindPlan result result' := by
  have ran := planned_fits (Plan.wideLimits Failures.blindPlan) mockHandlers keepOrder
    Failures.blindPlan anonymous rfl (wideLimits_fits _)
  obtain ⟨result', ok, same⟩ := plan_confluent mockWorld Invocation.textTools (databaseClient .schema)
    (fun _ => ⟨[], ⟨[], List.nodup_nil⟩, []⟩) (fun _ _ => .error ⟨.keyError, "no course"⟩)
    (fun _ => ⟨"0123456789ab", ""⟩) (fun _ => "A1B2C3") keepOrder backwards
    (Plan.wideLimits Failures.blindPlan) anonymous ran
  exact ⟨_, result', ran, ok, same⟩

end RealityAI.Proof.Confluence
