import RealityAI.Model.PlanAgent
import RealityAI.Proof.Plan.Acceptance

namespace RealityAI.Proof.Plan
open Library Python Model.Schemas Model.State Model.Safety Model.PlanningAgent Model.ActionAgent
open Model.PlanAgent

structure Fits (limits : GraphLimits) (p : Plan) : Prop where
  names : ∀ s ∈ p.steps, limits.reserved (stepNodeName s) = false
  supersteps : ∀ layers, p.topologicalLayers = .ok layers → layers.length ≤ limits.supersteps

theorem supersteps_iff (limits : GraphLimits) (p : Plan) :
    (∀ layers, p.topologicalLayers = .ok layers → layers.length ≤ limits.supersteps) ↔
      height p ≤ limits.supersteps := by
  rw [topologicalLayers_eq p]
  simp

def delivered (p : Plan) (final : ExecState) : PlanningResult where
  response := .str (report p final.toolCalls)
  toolCalls := final.toolCalls
  plan := p.steps
  stepOutputs := final.stepOutputs

section
variable (limits : GraphLimits) (h : LawfulHandlers Event) (order : Superstep.MergeOrder Update)
variable (p : Plan) (state : AgentView) {session : SessionContext}

theorem planned_fits (known : planSession state = .ok session) (fits : Fits limits p) :
    (planned limits h.toHandlers order p state).out =
      .ok (delivered p (stateAt h p order (some session) (height p))) := by
  have named : (p.steps.map stepNodeName).find? limits.reserved = none := by
    simp only [List.find?_eq_none, List.mem_map, forall_exists_index, and_imp,
      forall_apply_eq_imp_iff₂]
    intro s mem
    simp [fits.names s mem]
  have short : ¬ limits.supersteps < height p :=
    Nat.not_lt.mpr ((supersteps_iff limits p).mp fits.supersteps)
  have ran : (runPlanGraph limits h.toHandlers order p session).out =
      .ok (stateAt h p order (some session) (height p)) := by
    simp only [runPlanGraph, named, invokePlanGraph_eq, List.length_map, List.length_range, if_neg short]
  unfold planned
  rw [known]
  show (runPlanGraph limits h.toHandlers order p session >>= _).out = _
  rw [Eff.bind_ok ran]
  rfl

theorem planned_unfit (unfit : ¬ Fits limits p) : ∃ e, ∀ h : LawfulHandlers Event,
    (planned limits h.toHandlers order p state).out = .error e := by
  cases known : planSession state with
  | error e =>
      refine ⟨e, fun h => ?_⟩
      unfold planned
      rw [known]
      rfl
  | ok session =>
      have failed {e : PyExc}
          (raises : ∀ h : LawfulHandlers Event, (runPlanGraph limits h.toHandlers order p session).out =
            .error e) (h : LawfulHandlers Event) :
          (planned limits h.toHandlers order p state).out = .error e := by
        unfold planned
        rw [known]
        show (runPlanGraph limits h.toHandlers order p session >>= _).out = _
        rw [Eff.bind_error (raises h)]
      cases named : (p.steps.map stepNodeName).find? limits.reserved with
      | some name =>
          refine ⟨reservedName name, failed fun h => ?_⟩
          simp only [runPlanGraph, named, Eff.raise_out]
      | none =>
          have long : limits.supersteps < height p := by
            by_contra short
            refine unfit ⟨?_, (supersteps_iff limits p).mpr (Nat.not_lt.mp short)⟩
            intro s mem
            simpa using List.find?_eq_none.mp named (stepNodeName s) (List.mem_map_of_mem mem)
          refine ⟨recursionError, failed fun h => ?_⟩
          simp only [runPlanGraph, named, invokePlanGraph_eq, List.length_map, List.length_range,
            if_pos long]

end

end RealityAI.Proof.Plan
