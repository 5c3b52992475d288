import RealityAI.Proof.Plan.Steps

namespace RealityAI.Proof.References
open Relation Library Library.Dependency Python Model.Schemas Model.State Model.Safety
open Model.PlanningAgent Model.ActionAgent Model.ActionTools Model.PlanSteps Plan

/-- In every run the step finds the output of `ref`, the same in all of them. -/
structure Settled {ω : Type} (h : Handlers ω) (p : Model.Schemas.Plan)
    (session : Option SessionContext) (s : PlanStep) (ref : Int) : Prop where
  dependency : TransGen (Before (needs p.steps)) ref s.stepId
  found : ∃ value, ∀ order input, Meets h p order session s input →
    input.stepOutputs.lookup ref = some value

def ReadsDependencies {ω : Type} (w : StepWorld) (h : Handlers ω) (p : Model.Schemas.Plan)
    (session : Option SessionContext) : Prop :=
  ∀ order, ∀ s ∈ p.steps, ∀ input, Meets h p order session s input →
    ∀ ref ∈ lookups w s input.stepOutputs, Settled h p session s ref

section
variable {σ : Type} (w : StepWorld) (langChain : LangChain) (client : CoreServiceClient σ)
  (service : PlanStep → σ)
variable (read : PlanStep → ReadCourse) (stamp : PlanStep → Stamp) (hex : PlanStep → String)
variable (p : Model.Schemas.Plan) (session : Option SessionContext)

theorem valueOf_order (order order' : Superstep.MergeOrder Update) {s : PlanStep}
    (mem : s ∈ p.steps) :
    let h := lawfulStepHandlers w langChain client service read stamp hex
    valueOf h p order' session s = valueOf h p order session s := by
  intro h
  rw [valueOf, valueOf, outcomeOf_congr _ mem]
  intro s' _ outputs same
  rw [outcomeOf_eq h]
  exact congrArg Eff.out (dispatchStep_congr same w _ s' session)

theorem settled_of_path {s : PlanStep} (mem : s ∈ p.steps) {ref : Int}
    (path : TransGen (Before (needs p.steps)) ref s.stepId) :
    Settled (lawfulStepHandlers w langChain client service read stamp hex).toHandlers p session s ref := by
  obtain ⟨a, inside, same⟩ := mem_stepIds.mp (known_of_path p path)
  subst same
  have below := level_lt_of_path p path
  refine ⟨path, valueOf (lawfulStepHandlers w langChain client service read stamp hex) p keepOrder session a, ?_⟩
  intro order input met
  rw [(meets_iff _ p order session mem input).mp met, inputOf_lookup _ p order session s inside,
    if_pos below, valueOf_order w langChain client service read stamp hex p session keepOrder order inside]

theorem path_of_reads {s : PlanStep} (mem : s ∈ p.steps)
    (reads : ReadsDependencies w (lawfulStepHandlers w langChain client service read stamp hex).toHandlers p
      session) {ref : Int} (named : ref ∈ references w.builtins s) :
    TransGen (Before (needs p.steps)) ref s.stepId := by
  have met := (meets_iff (lawfulStepHandlers w langChain client service read stamp hex) p keepOrder session mem
    _).mpr rfl
  have settled := reads keepOrder s mem _ met
  rw [lookups_eq] at settled
  rw [readUpTo_eq_self] at settled
  · exact (settled ref named).dependency
  · intro ref looked
    obtain ⟨value, found⟩ := (settled ref looked).found
    exact Option.isSome_iff_exists.mpr ⟨value, found keepOrder _ met⟩

/-- The handlers of a plan read outputs of dependencies only, in every run, exactly when every
reference of a step names a step on which it depends, directly or through others. -/
theorem reads_dependencies_iff :
    ReadsDependencies w (lawfulStepHandlers w langChain client service read stamp hex).toHandlers p session ↔
      ∀ s ∈ p.steps, ∀ ref ∈ references w.builtins s,
        TransGen (Before (needs p.steps)) ref s.stepId := by
  constructor
  · intro reads s mem ref named
    exact path_of_reads w langChain client service read stamp hex p session mem reads named
  · intro paths order s mem input _ ref looked
    rw [lookups_eq] at looked
    exact settled_of_path w langChain client service read stamp hex p session mem
      (paths s mem ref (mem_of_readUpTo looked))

end

/-! A gap analysis that names its inputs, but does not depend on them. -/

def transcriptStep : PlanStep where
  stepId := 0
  description := "Read the transcript"
  agentType := .query
  querySource := some .canvas
  queryParams := some [("user_id", .str "u1")]
  valid := rfl

def undeclaredStep : PlanStep where
  stepId := 1
  description := "Find open requirements"
  agentType := .reasoning
  reasoningInputs := some [0]
  reasoningTemplate := some "extract_unsatisfied_elective_pool"
  valid := rfl

def undeclaredPlan : Model.Schemas.Plan where
  steps := [transcriptStep, undeclaredStep]
  reasoning := "gap analysis"
  accepted := accepted_of_lt (by decide) (by decide) (by decide)

theorem undeclared_input_read :
    ¬ ReadsDependencies mockWorld mockHandlers.toHandlers undeclaredPlan none := by
  intro reads
  have path := path_of_reads mockWorld _ _ _ _ _ _ undeclaredPlan none
    (List.mem_cons_of_mem _ List.mem_cons_self) reads
    (show (0 : Int) ∈ references mockWorld.builtins undeclaredStep from List.mem_singleton_self _)
  obtain ⟨b, -, before⟩ := TransGen.tail'_iff.mp path
  obtain ⟨s, mem, same, dependsOn⟩ := (mem_needs _).mp before
  obtain rfl := step_ext undeclaredPlan mem (List.mem_cons_of_mem _ List.mem_cons_self) same
  cases dependsOn

end RealityAI.Proof.References
