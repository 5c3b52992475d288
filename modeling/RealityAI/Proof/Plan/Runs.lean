import RealityAI.Proof.Plan.Execution

namespace RealityAI.Proof.Plan
open Relation Library Library.Dependency Python Model.Schemas Model.State Model.Safety
open Model.PlanningAgent

/-- In some superstep of the run the node of `s` meets `input`. -/
def Meets {ω : Type} (h : Handlers ω) (p : Plan) (order : Superstep.MergeOrder Update)
    (session : Option SessionContext) (s : PlanStep) (input : ExecState) : Prop :=
  ∃ tasks ∈ (invokePlanGraph h p order session).1, ∃ t ∈ tasks,
    t.name = stepNodeName s ∧ t.input = input

/-- In some superstep of the run the node of `s` returns `call`. -/
def Records {ω : Type} (h : Handlers ω) (p : Plan) (order : Superstep.MergeOrder Update)
    (session : Option SessionContext) (s : PlanStep) (call : ToolCall) : Prop :=
  ∃ tasks ∈ (invokePlanGraph h p order session).1, ∃ t ∈ tasks,
    t.name = stepNodeName s ∧ ∃ update, t.result.out = .ok update ∧ update.toolCalls = [call]

section
variable {ω : Type} (h : LawfulHandlers ω) (p : Plan) (order : Superstep.MergeOrder Update)
variable (session : Option SessionContext)

theorem tasks_perm : (invokePlanGraph h.toHandlers p order session).1.flatten.Perm
    (p.steps.map fun s => taskOf h s (inputOf h p order session s)) := by
  have once := exactlyOnce h p order session
  have flat {history : List (List (PlanTask ω))} {layers : List (List PlanStep)}
      (supersteps : List.Forall₂ (fun tasks layer =>
        tasks.Perm (layer.map fun s => taskOf h s (inputOf h p order session s))) history layers) :
      history.flatten.Perm
        (layers.flatten.map fun s => taskOf h s (inputOf h p order session s)) := by
    induction supersteps with
    | nil => exact List.Perm.refl _
    | cons here _ ih =>
        rw [List.flatten_cons, List.flatten_cons, List.map_append]
        exact here.append ih
  rw [invokePlanGraph_eq]
  exact (flat once.supersteps).trans (once.partition.map _)

theorem listed_iff (t : PlanTask ω) :
    (∃ tasks ∈ (invokePlanGraph h.toHandlers p order session).1, t ∈ tasks) ↔
      ∃ s ∈ p.steps, taskOf h s (inputOf h p order session s) = t := by
  rw [← List.mem_flatten, (tasks_perm h p order session).mem_iff, List.mem_map]

theorem meets_iff {s : PlanStep} (mem : s ∈ p.steps) (input : ExecState) :
    Meets h.toHandlers p order session s input ↔ input = inputOf h p order session s := by
  constructor
  · intro ⟨tasks, ran, t, inside, name, met⟩
    obtain ⟨s', mem', same⟩ := (listed_iff h p order session t).mp ⟨tasks, ran, inside⟩
    subst same
    obtain rfl := step_ext p mem' mem (stepNodeName_inj name)
    exact met.symm
  · intro met
    obtain ⟨tasks, ran, inside⟩ := (listed_iff h p order session _).mpr ⟨s, mem, rfl⟩
    exact ⟨tasks, ran, _, inside, rfl, met.symm⟩

theorem records_iff {s : PlanStep} (mem : s ∈ p.steps) (call : ToolCall) :
    Records h.toHandlers p order session s call ↔ call = callOf h p order session s := by
  constructor
  · intro ⟨tasks, ran, t, inside, name, update, returned, calls⟩
    obtain ⟨s', mem', same⟩ := (listed_iff h p order session t).mp ⟨tasks, ran, inside⟩
    subst same
    obtain rfl := step_ext p mem' mem (stepNodeName_inj name)
    rw [taskOf, makeStepNode_ok] at returned
    obtain rfl := Except.ok.inj returned
    exact (List.singleton_inj.mp calls).symm
  · intro same
    subst same
    obtain ⟨tasks, ran, inside⟩ := (listed_iff h p order session _).mpr ⟨s, mem, rfl⟩
    exact ⟨tasks, ran, _, inside, rfl, _, makeStepNode_ok h s _, rfl⟩

theorem inputOf_session (s : PlanStep) : (inputOf h p order session s).session = session :=
  (progress h p order session (level p s.stepId)).carried

theorem outcomeOf_eq (s : PlanStep) : outcomeOf h p order session s =
    (dispatchStep h.toHandlers s (inputOf h p order session s).stepOutputs session).out := by
  rw [outcomeOf, inputOf_session]

theorem inputOf_lookup (s : PlanStep) {a : PlanStep} (mem : a ∈ p.steps) :
    (inputOf h p order session s).stepOutputs.lookup a.stepId =
      if level p a.stepId < level p s.stepId then some (valueOf h p order session a) else none :=
  (progress h p order session (level p s.stepId)).outputs a mem

theorem inputOf_unknown (s : PlanStep) {i : Int} (unknown : i ∉ stepIds p.steps) :
    (inputOf h p order session s).stepOutputs.lookup i = none :=
  (progress h p order session (level p s.stepId)).known i unknown

theorem level_lt_of_before {a b : Int} (before : Before (needs p.steps) a b) :
    level p a < level p b :=
  (depth_le_iff (wellFounded p)).mp le_rfl a before

theorem level_lt_of_path {a b : Int} (path : TransGen (Before (needs p.steps)) a b) :
    level p a < level p b := by
  induction path with
  | single before => exact level_lt_of_before p before
  | tail _ before ih => exact ih.trans (level_lt_of_before p before)

theorem known_of_path {a b : Int} (path : TransGen (Before (needs p.steps)) a b) :
    a ∈ stepIds p.steps := by
  induction path using TransGen.head_induction_on with
  | single before => exact needs_mem p before
  | head before _ _ => exact needs_mem p before

end

section
variable {ω : Type} {h h' : LawfulHandlers ω} {p : Plan} {order order' : Superstep.MergeOrder Update}
variable {session : Option SessionContext}

theorem outcomeOf_congr
    (agree : ∀ s ∈ p.steps, ∀ outputs : StepOutputs,
      (∀ i, outputs.lookup i = (inputOf h p order session s).stepOutputs.lookup i) →
      (dispatchStep h'.toHandlers s outputs session).out = outcomeOf h p order session s)
    {s : PlanStep} (mem : s ∈ p.steps) :
    outcomeOf h' p order' session s = outcomeOf h p order session s := by
  generalize known : level p s.stepId = n
  induction n using Nat.strong_induction_on generalizing s with
  | _ n ih =>
      rw [outcomeOf_eq h']
      apply agree s mem
      intro i
      by_cases inside : i ∈ stepIds p.steps
      · obtain ⟨a, memA, same⟩ := mem_stepIds.mp inside
        subst same
        rw [inputOf_lookup h' p order' session s memA, inputOf_lookup h p order session s memA]
        split
        · rename_i below
          rw [valueOf, valueOf, ih _ (known ▸ below) memA rfl]
        · rfl
      · rw [inputOf_unknown h' p order' session s inside, inputOf_unknown h p order session s inside]

theorem stateAt_congr
    (same : ∀ s ∈ p.steps, outcomeOf h' p order session s = outcomeOf h p order session s) (k : Nat) :
    stateAt h' p order session k = stateAt h p order session k := by
  have updates (s : PlanStep) (mem : s ∈ p.steps) :
      updateOf h' p order session s = updateOf h p order session s := by
    rw [updateOf, updateOf, valueOf, valueOf, callOf, callOf, same s mem]
  induction k with
  | zero => rfl
  | succ k ih =>
      show (order.arrange k ((encoding h' p).updates k (stateAt h' p order session k))).foldl
        mergeUpdate (stateAt h' p order session k) =
          (order.arrange k ((encoding h p).updates k (stateAt h p order session k))).foldl
            mergeUpdate (stateAt h p order session k)
      have layers : ((encoding h' p).layer k).map (updateOf h' p order session) =
          ((encoding h p).layer k).map (updateOf h p order session) := by
        apply List.map_congr_left
        intro s mem
        exact updates s ((encoding h p).mem_layer.mp mem).1
      rw [updates_eq, updates_eq, layers, ih]

theorem valueOf_of_outputs
    (same : (stateAt h' p order session (height p)).stepOutputs =
      (stateAt h p order session (height p)).stepOutputs) {s : PlanStep} (mem : s ∈ p.steps) :
    valueOf h' p order session s = valueOf h p order session s := by
  have first := (exactlyOnce h' p order session).outputs s mem
  have second := (exactlyOnce h p order session).outputs s mem
  rw [same] at first
  exact Option.some.inj (first.symm.trans second)

theorem inputOf_of_values
    (same : ∀ s ∈ p.steps, valueOf h' p order session s = valueOf h p order session s) (s : PlanStep)
    (i : Int) : (inputOf h' p order session s).stepOutputs.lookup i =
      (inputOf h p order session s).stepOutputs.lookup i := by
  by_cases inside : i ∈ stepIds p.steps
  · obtain ⟨a, mem, equal⟩ := mem_stepIds.mp inside
    subst equal
    rw [inputOf_lookup h' p order session s mem, inputOf_lookup h p order session s mem, same a mem]
  · rw [inputOf_unknown h' p order session s inside, inputOf_unknown h p order session s inside]

end

end RealityAI.Proof.Plan
