import RealityAI.Model.PlanSteps
import RealityAI.Proof.ActionTools
import RealityAI.Proof.Plan.Runs
import Mathlib.Data.Finset.Sort

namespace RealityAI.Proof.Plan
open Library Python Model.Schemas Model.State Model.Safety Model.PlanningAgent Model.ActionAgent
open Model.ActionTools Model.QueryAgent Model.PlanSteps

def lawfulStepHandlers {σ : Type} (w : StepWorld) (langChain : LangChain)
    (client : CoreServiceClient σ) (service : PlanStep → σ) (read : PlanStep → ReadCourse)
    (stamp : PlanStep → Stamp) (hex : PlanStep → String) : LawfulHandlers Event :=
  ActionTools.lawfulPlanHandlers w.builtins.toRuntime langChain client service read stamp hex
    (fun step outputs => (runQueryStep w.builtins w.objects w.stores step outputs).out)
    (fun step outputs => (runReasoningStep step outputs).out)
    (fun step outputs => (runSolverStep w step outputs).out)

theorem lawfulStepHandlers_eq {σ : Type} (w : StepWorld) (langChain : LangChain)
    (client : CoreServiceClient σ) (service : PlanStep → σ) (read : PlanStep → ReadCourse)
    (stamp : PlanStep → Stamp) (hex : PlanStep → String) :
    (lawfulStepHandlers w langChain client service read stamp hex).toHandlers =
      stepHandlers w fun step =>
        ⟨read step, langChain, functions client (service step) (hex step), stamp step⟩ :=
  rfl

def lookups (w : StepWorld) (step : PlanStep) (outputs : StepOutputs) : List Int :=
  match step.agentType with
  | .query => (runQueryStep w.builtins w.objects w.stores step outputs).log
  | .action => []
  | .reasoning => (runReasoningStep step outputs).log
  | .constraintSolver => (runSolverStep w step outputs).log

def ref? (b : Builtins) (v : Json) : Option Int := (refText? v).bind fun text => (b.int text).toOption

def queryRefs (b : Builtins) (entries : List (String × Json)) : List Int :=
  entries.filterMap fun entry => ref? b entry.2

/-- The solver stops at a placeholder without a number. -/
def solverRefs (b : Builtins) : List (String × Json) → List Int
  | [] => []
  | (_, v) :: rest =>
      match refText? v with
      | none => solverRefs b rest
      | some text =>
          match b.int text with
          | .error _ => []
          | .ok ref => ref :: solverRefs b rest

/-- What a step names, in the order in which its handler looks it up. -/
def references (b : Builtins) (step : PlanStep) : List Int :=
  match step.agentType with
  | .query => queryRefs b (step.queryParams.getD []).items
  | .action => []
  | .reasoning => step.reasoningInputs.getD []
  | .constraintSolver =>
      if step.solverType = some .scheduleCsp then solverRefs b (step.solverInputs.getD []).items
      else []

def readUpTo (outputs : StepOutputs) : List Int → List Int
  | [] => []
  | ref :: refs =>
      if (outputs.lookup ref).isSome then ref :: readUpTo outputs refs else [ref]

section
variable {outputs : StepOutputs} {refs : List Int} {ref : Int}

theorem mem_of_readUpTo (mem : ref ∈ readUpTo outputs refs) : ref ∈ refs := by
  induction refs with
  | nil => exact mem
  | cons r rs ih =>
      rw [readUpTo] at mem
      split at mem
      · rcases List.mem_cons.mp mem with here | later
        · exact List.mem_cons.mpr (.inl here)
        · exact List.mem_cons_of_mem _ (ih later)
      · exact List.mem_cons.mpr (.inl (List.mem_singleton.mp mem))

theorem readUpTo_eq_self (found : ∀ ref ∈ readUpTo outputs refs, (outputs.lookup ref).isSome) :
    readUpTo outputs refs = refs := by
  induction refs with
  | nil => rfl
  | cons r rs ih =>
      rw [readUpTo] at found ⊢
      by_cases present : (outputs.lookup r).isSome
      · rw [if_pos present] at found ⊢
        rw [ih fun ref mem => found ref (List.mem_cons_of_mem _ mem)]
      · rw [if_neg present] at found
        exact absurd (found r (List.mem_singleton_self r)) present

theorem lookUp_log (missing : PyExc) : (lookUp outputs ref missing).log = [ref] := rfl

theorem lookUp_found (missing : PyExc) {value : StepValue}
    (found : outputs.lookup ref = some value) :
    (lookUp outputs ref missing).out = .ok value := by
  simp [lookUp, found]

theorem lookUp_missing (missing : PyExc) (absent : outputs.lookup ref = none) :
    (lookUp outputs ref missing).out = .error missing := by
  simp [lookUp, absent]

theorem lookUp_bind_log {α : Type} (missing : PyExc) (rest : StepValue → Eff PyExc Int α)
    (logged : ∀ value, (rest value).log = readUpTo outputs refs) :
    (lookUp outputs ref missing >>= rest).log = readUpTo outputs (ref :: refs) := by
  cases found : outputs.lookup ref with
  | none => simp [Eff.bind_error (lookUp_missing missing found), lookUp_log, readUpTo, found]
  | some value =>
      simp [Eff.bind_ok (lookUp_found missing found), lookUp_log, readUpTo, found, logged]

theorem readInputs_log (refs : List Int) :
    (readInputs outputs refs).log = readUpTo outputs refs := by
  induction refs with
  | nil => rfl
  | cons r rs ih =>
      apply lookUp_bind_log
      intro value
      rw [Eff.map_log, ih]

theorem resolveStepRefs_log (b : Builtins) (entries : List (String × Json)) :
    (resolveWith (resolveStepRef b outputs) entries).log =
      readUpTo outputs (queryRefs b entries) := by
  induction entries with
  | nil => rfl
  | cons entry entries ih =>
      obtain ⟨k, v⟩ := entry
      rw [resolveWith, queryRefs, List.filterMap_cons]
      cases text : refText? v with
      | none => simp [resolveStepRef, ref?, text, ih, queryRefs]
      | some text' =>
          cases number : b.int text' with
          | error e => simp [resolveStepRef, ref?, text, number, Except.toOption, ih, queryRefs]
          | ok r =>
              have named : ref? b v = some r := by simp [ref?, text, number, Except.toOption]
              simp only [resolveStepRef, text, number, named]
              apply lookUp_bind_log
              intro value
              rw [Eff.map_log, ih, queryRefs]

theorem resolveSolverInputs_log (w : StepWorld) (entries : List (String × Json)) :
    (resolveWith (resolveSolverInput w outputs) entries).log =
      readUpTo outputs (solverRefs w.builtins entries) := by
  induction entries with
  | nil => rfl
  | cons entry entries ih =>
      obtain ⟨k, v⟩ := entry
      rw [resolveWith, solverRefs]
      cases text : refText? v with
      | none => simp [resolveSolverInput, text, ih]
      | some text' =>
          cases number : w.builtins.int text' with
          | error e =>
              simp only [resolveSolverInput, text, number]
              rfl
          | ok r =>
              simp only [resolveSolverInput, text, number]
              apply lookUp_bind_log
              intro value
              rw [Eff.map_log, ih]

end

theorem query_fields (s : PlanStep) (query : s.agentType = .query) :
    ∃ source params, s.querySource = some source ∧ s.queryParams = some params := by
  have accepted := s.valid
  rw [StepFields.validate] at accepted
  cases checked : s.checkStepId with
  | error e =>
      rw [checked] at accepted
      cases accepted
  | ok _ =>
      rw [checked] at accepted
      cases source : s.querySource with
      | none =>
          simp [StepFields.checkRequiredFieldsPerAgentType, query, source, bind, Except.bind]
            at accepted
      | some source' =>
          cases params : s.queryParams with
          | none =>
              simp [StepFields.checkRequiredFieldsPerAgentType, query, source, params, bind,
                Except.bind] at accepted
          | some params' => exact ⟨source', params', rfl, rfl⟩

theorem lookups_eq (w : StepWorld) (s : PlanStep) (outputs : StepOutputs) :
    lookups w s outputs = readUpTo outputs (references w.builtins s) := by
  rw [lookups, references]
  cases kind : s.agentType with
  | query =>
      obtain ⟨source, params, hasSource, hasParams⟩ := query_fields s kind
      simp [runQueryStep, hasSource, hasParams, resolveStepRefs, resolveStepRefs_log]
  | action => rfl
  | reasoning => simp [runReasoningStep, readInputs_log]
  | constraintSolver =>
      rw [runSolverStep]
      cases solver : s.solverType with
      | none => rfl
      | some solver' =>
          cases solver' with
          | prereqCheck => rfl
          | scheduleCsp => simp [resolveSolverInputs, resolveSolverInputs_log]

section
variable {outputs outputs' : StepOutputs} (same : ∀ i, outputs.lookup i = outputs'.lookup i)
include same

theorem lookUp_congr : lookUp outputs = lookUp outputs' := by
  funext ref missing
  rw [lookUp, lookUp, same]

theorem readInputs_congr (refs : List Int) : readInputs outputs refs = readInputs outputs' refs := by
  induction refs with
  | nil => rfl
  | cons r rs ih => rw [readInputs, readInputs, lookUp_congr same, ih]

theorem resolveStepRef_congr (b : Builtins) :
    resolveStepRef b outputs = resolveStepRef b outputs' := by
  funext v
  rw [resolveStepRef, resolveStepRef, lookUp_congr same]

theorem resolveSolverInput_congr (w : StepWorld) :
    resolveSolverInput w outputs = resolveSolverInput w outputs' := by
  funext v
  rw [resolveSolverInput, resolveSolverInput, lookUp_congr same]

theorem dispatchStep_congr (w : StepWorld) (world : PlanStep → World) (s : PlanStep)
    (session : Option SessionContext) :
    dispatchStep (stepHandlers w world) s outputs session =
      dispatchStep (stepHandlers w world) s outputs' session := by
  rw [dispatchStep, dispatchStep]
  cases s.agentType with
  | query =>
      simp only [stepHandlers, planHandlers, runQueryStep, resolveStepRefs,
        resolveStepRef_congr same]
  | action => rfl
  | reasoning => simp only [stepHandlers, planHandlers, runReasoningStep, readInputs_congr same]
  | constraintSolver =>
      simp only [stepHandlers, planHandlers, runSolverStep, resolveSolverInputs,
        resolveSolverInput_congr same]

end

def keepOrder : Superstep.MergeOrder Update := ⟨fun _ updates => updates, fun _ _ => List.Perm.refl _⟩

def ascending : SetOrder where
  list ids := ids.sort (· ≤ ·)
  nodup ids := ids.sort_nodup _
  mem ids _ := ids.mem_sort _

theorem accepted_of_lt {steps : List PlanStep} (distinct : (steps.map fun s => s.stepId).Nodup)
    (known : ∀ s ∈ steps, ∀ dep ∈ s.dependsOn, ∃ s' ∈ steps, s'.stepId = dep)
    (lt : ∀ s ∈ steps, ∀ dep ∈ s.dependsOn, dep < s.stepId) :
    ∃ order, validateDag order steps = .ok () := by
  refine ⟨ascending, (validateDag_ok_iff _ _).mpr ⟨distinct, known, ?_⟩⟩
  apply Dependency.acyclic_of_lt
  intro a b before
  obtain ⟨s, mem, same, dependsOn⟩ := (mem_needs steps).mp before
  exact same ▸ lt s mem a dependsOn

def mockWorld : StepWorld where
  builtins := .ascii
  objects := ⟨fun _ => "", fun _ => "Exception"⟩
  validateConstraints _ := .ok {}
  stores := Model.QueryAgent.mockStores

def mockHandlers : LawfulHandlers Event :=
  lawfulStepHandlers mockWorld Invocation.textTools (databaseClient .schema) (fun _ => ⟨[], ⟨[], List.nodup_nil⟩, []⟩)
    (fun _ _ => .error ⟨.keyError, "no course"⟩) (fun _ => ⟨"0123456789ab", ""⟩) (fun _ => "A1B2C3")

end RealityAI.Proof.Plan
