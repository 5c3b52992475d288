import RealityAI.Python.Value
import Mathlib.Data.Finset.Card
import Mathlib.Data.Finset.Dedup
import Mathlib.Logic.Function.Basic

/-!
# `schemas/plan.py`
-/

namespace RealityAI.Model.Schemas
open Python

inductive AgentType where
  | query | reasoning | action | constraintSolver
  deriving DecidableEq, Repr

inductive QuerySource where
  | canvas | degreeDb | catalogDb | syllabusRag
  deriving DecidableEq, Repr

inductive SolverType where
  | scheduleCsp | prereqCheck
  deriving DecidableEq, Repr

/-- The fields of a `PlanStep`, before its validators have run. -/
structure StepFields where
  stepId : Int
  description : String
  dependsOn : List Int := []
  agentType : AgentType
  querySource : Option QuerySource := none
  queryParams : Option Dict := none
  reasoningInputs : Option (List Int) := none
  reasoningTemplate : Option String := none
  actionTool : Option String := none
  actionArgs : Option Dict := none
  solverType : Option SolverType := none
  solverInputs : Option Dict := none
  semanticQuery : Option String := none
  queryExpansion : Option (List String) := none

namespace StepFields

def error (s : StepFields) (text : String) : String := "Step " ++ toString s.stepId ++ ": " ++ text

def handlerError (s : StepFields) (text : String) : String :=
  "step " ++ toString s.stepId ++ ": " ++ text

def checkStepId (s : StepFields) : Except String Unit :=
  if 0 ≤ s.stepId then .ok () else .error "Input should be greater than or equal to 0"

def checkRequiredFieldsPerAgentType (s : StepFields) : Except String Unit :=
  match s.agentType with
  | .query =>
      if s.querySource.isNone ∨ s.queryParams.isNone then
        .error (s.error "query agent_type requires query_source + query_params")
      else .ok ()
  | .reasoning =>
      if s.reasoningInputs.getD [] = [] ∨ s.reasoningTemplate.getD "" = "" then
        .error (s.error "reasoning agent_type requires reasoning_inputs + reasoning_template")
      else .ok ()
  | .action =>
      if s.actionTool.getD "" = "" then .error (s.error "action agent_type requires action_tool")
      else .ok ()
  | .constraintSolver =>
      if s.solverType.isNone ∨ s.solverInputs.isNone then
        .error (s.error "constraint_solver agent_type requires solver_type + solver_inputs")
      else .ok ()

def noSelfDependency (s : StepFields) : Except String Unit :=
  if s.stepId ∈ s.dependsOn then .error (s.error "cannot depend on itself") else .ok ()

def validate (s : StepFields) : Except String Unit := do
  s.checkStepId
  s.checkRequiredFieldsPerAgentType
  s.noSelfDependency

end StepFields

structure PlanStep extends StepFields where
  valid : toStepFields.validate = .ok ()

/-- The order in which a Python set of integers is iterated over. -/
structure SetOrder where
  list : Finset Int → List Int
  nodup : ∀ s, (list s).Nodup
  mem : ∀ s a, a ∈ list s ↔ a ∈ s

def stepIds (steps : List PlanStep) : Finset Int := (steps.map fun s => s.stepId).toFinset

/-! ## Cycle detection -/

structure Links where
  indeg : Int → Int
  adj : Int → List Int

def Links.empty : Links := ⟨fun _ => 0, fun _ => []⟩

def Links.add (g : Links) (dep stepId : Int) : Links where
  indeg := Function.update g.indeg stepId (g.indeg stepId + 1)
  adj := Function.update g.adj dep (g.adj dep ++ [stepId])

def links (steps : List PlanStep) : Links :=
  steps.foldl (fun g s => s.dependsOn.foldl (fun g dep => g.add dep s.stepId) g) .empty

/-- The loop variables of the search; `ready` has the end of the Python list at its head. -/
structure Search where
  indeg : Int → Int
  ready : List Int
  visited : Nat

def Search.release (k : Search) (nxt : Int) : Search :=
  let d := k.indeg nxt - 1
  { k with
    indeg := Function.update k.indeg nxt d
    ready := if d = 0 then nxt :: k.ready else k.ready }

def Search.visit (adj : Int → List Int) (k : Search) : Search :=
  match k.ready with
  | [] => k
  | sid :: ready =>
      (adj sid).foldl Search.release { k with ready := ready, visited := k.visited + 1 }

def Search.loop (adj : Int → List Int) : Nat → Search → Search
  | 0, k => k
  | n + 1, k => loop adj n (k.visit adj)

def search (order : SetOrder) (steps : List PlanStep) : Search :=
  let ids := stepIds steps
  let g := links steps
  let ready := (order.list ids).filter fun sid => g.indeg sid = 0
  Search.loop g.adj ids.card ⟨g.indeg, ready.reverse, 0⟩

/-! ## Plans -/

def missingDependency (ids : Finset Int) (steps : List PlanStep) : Option (PlanStep × Int) :=
  steps.findSome? fun s => (s.dependsOn.find? fun dep => dep ∉ ids).map fun dep => (s, dep)

def validateDag (order : SetOrder) (steps : List PlanStep) : Except String Unit :=
  let ids := stepIds steps
  if ids.card ≠ steps.length then .error "duplicate step_id in plan"
  else match missingDependency ids steps with
    | some (s, dep) =>
        .error ("Step " ++ toString s.stepId ++ " depends_on missing step " ++ toString dep)
    | none =>
        if (search order steps).visited ≠ ids.card then .error "plan contains a cycle" else .ok ()

structure Plan where
  steps : List PlanStep
  reasoning : String
  accepted : ∃ order, validateDag order steps = .ok ()

def Plan.construct (order : SetOrder) (steps : List PlanStep) (reasoning : String) :
    Except String Plan :=
  match valid : validateDag order steps with
  | .ok () => .ok ⟨steps, reasoning, order, valid⟩
  | .error text => .error text

/-! ## Layers -/

abbrev Remaining := List (Int × Finset Int)

def readyIds (remaining : Remaining) : List Int :=
  ((remaining.filter fun entry => entry.2 = ∅).map Prod.fst).insertionSort (· ≤ ·)

def dropReady (ready : List Int) (remaining : Remaining) : Remaining :=
  (remaining.filter fun entry => entry.1 ∉ ready).map fun entry =>
    (entry.1, entry.2 \ ready.toFinset)

theorem dropReady_length_lt {remaining : Remaining} (some : readyIds remaining ≠ []) :
    (dropReady (readyIds remaining) remaining).length < remaining.length := by
  obtain ⟨sid, mem⟩ := List.exists_mem_of_ne_nil _ some
  have source := mem
  rw [readyIds, (List.perm_insertionSort _ _).mem_iff, List.mem_map] at source
  obtain ⟨entry, inside, rfl⟩ := source
  rw [dropReady, List.length_map, List.length_filter_lt_length_iff_exists]
  exact ⟨entry, (List.mem_filter.mp inside).1, by simpa using mem⟩

def layersLoop (remaining : Remaining) : Except String (List (List Int)) :=
  if remaining = [] then .ok []
  else if _ : readyIds remaining = [] then .error "unreachable: cycle in topological_layers"
  else do
    let layers ← layersLoop (dropReady (readyIds remaining) remaining)
    return readyIds remaining :: layers
termination_by remaining.length
decreasing_by exact dropReady_length_lt (by assumption)

def Plan.find? (p : Plan) (stepId : Int) : Option PlanStep :=
  p.steps.find? fun s => s.stepId = stepId

def Plan.topologicalLayers (p : Plan) : Except String (List (List PlanStep)) := do
  let layers ← layersLoop (p.steps.map fun s => (s.stepId, s.dependsOn.toFinset))
  return layers.map fun ids => ids.filterMap p.find?

end RealityAI.Model.Schemas
