import RealityAI.Proof.Plan.Acceptance

namespace RealityAI.Proof.Plan
open Library Python Model.State Model.QueryAgent Model.PlanSteps

/-- Both return the same parameters, or both raise. -/
def ResolversAgree (w : StepWorld) (params : Dict) (outputs : StepOutputs) : Prop :=
  (∃ values, (resolveStepRefs w.builtins params outputs).out = .ok values ∧
    (resolveSolverInputs w params outputs).out = .ok values) ∨
  ¬ Returns (resolveStepRefs w.builtins params outputs).out ∧
    ¬ Returns (resolveSolverInputs w params outputs).out

/-- What stands for `N` in every placeholder is an integer. -/
def Numbered (b : Builtins) (params : Dict) : Prop :=
  ∀ entry ∈ params.items, (refText? entry.2).isSome → (ref? b entry.2).isSome

def Dangling (b : Builtins) (params : Dict) (outputs : StepOutputs) : Prop :=
  ∃ entry ∈ params.items, ∃ ref, ref? b entry.2 = some ref ∧ outputs.lookup ref = none

section
variable {w : StepWorld} {params : Dict} {outputs : StepOutputs}

theorem all_mean_iff :
    (∀ entry ∈ params.items, (meaning w.builtins outputs entry.2).isSome) ↔
      ¬ Dangling w.builtins params outputs := by
  unfold Dangling meaning
  constructor
  · intro all ⟨entry, mem, ref, named, absent⟩
    have here := all entry mem
    simp [named, absent] at here
  · intro present entry mem
    cases named : ref? w.builtins entry.2 with
    | none => rfl
    | some ref =>
        cases found : outputs.lookup ref with
        | none => exact absurd ⟨entry, mem, ref, named, found⟩ present
        | some value => simp [found]

theorem solverMeaning_numbered {v : Json} (numbered : (refText? v).isSome → (ref? w.builtins v).isSome) :
    solverMeaning w.builtins outputs v = meaning w.builtins outputs v := by
  apply if_neg
  intro ⟨placeholder, unnumbered⟩
  have number := numbered placeholder
  rw [unnumbered] at number
  cases number

theorem all_solverMean_iff :
    (∀ entry ∈ params.items, (solverMeaning w.builtins outputs entry.2).isSome) ↔
      Numbered w.builtins params ∧ ¬ Dangling w.builtins params outputs := by
  rw [← all_mean_iff]
  constructor
  · intro all
    have numbered : Numbered w.builtins params := by
      intro entry mem placeholder
      by_contra none
      have here := all entry mem
      rw [solverMeaning, if_pos ⟨placeholder, by simpa using none⟩] at here
      cases here
    refine ⟨numbered, fun entry mem => ?_⟩
    rw [← solverMeaning_numbered (numbered entry mem)]
    exact all entry mem
  · intro ⟨numbered, all⟩ entry mem
    rw [solverMeaning_numbered (numbered entry mem)]
    exact all entry mem

theorem resolveStepRefs_ok (values : Params) :
    (resolveStepRefs w.builtins params outputs).out = .ok values ↔
      ¬ Dangling w.builtins params outputs ∧
        values = resolved (meaning w.builtins outputs) params.items := by
  rw [resolveStepRefs, resolveWith_ok fun _ _ => resolveStepRef_ok, all_mean_iff]

theorem resolveSolverInputs_ok (values : Params) :
    (resolveSolverInputs w params outputs).out = .ok values ↔
      Numbered w.builtins params ∧ ¬ Dangling w.builtins params outputs ∧
        values = resolved (meaning w.builtins outputs) params.items := by
  rw [resolveSolverInputs, resolveWith_ok fun _ _ => resolveSolverInput_ok, all_solverMean_iff,
    and_assoc]
  apply and_congr_right
  intro numbered
  have same : resolved (solverMeaning w.builtins outputs) params.items =
      resolved (meaning w.builtins outputs) params.items := by
    apply List.map_congr_left
    intro entry mem
    rw [solverMeaning_numbered (numbered entry mem)]
  rw [same]

end

/-- The resolvers agree unless a placeholder without a number meets no dangling one. -/
theorem resolvers_agree_iff (w : StepWorld) (params : Dict) (outputs : StepOutputs) :
    ResolversAgree w params outputs ↔
      Numbered w.builtins params ∨ Dangling w.builtins params outputs := by
  unfold ResolversAgree Returns
  simp only [resolveStepRefs_ok, resolveSolverInputs_ok]
  by_cases numbered : Numbered w.builtins params <;>
    by_cases dangling : Dangling w.builtins params outputs <;> simp [numbered, dangling]

/-! A placeholder with a name instead of a number. -/

theorem unnumbered_placeholder_raises :
    ¬ ∀ params outputs, ResolversAgree mockWorld params outputs := by
  intro all
  rcases all [("candidates", .str "<from_step_x>")] ∅ with ⟨values, -, raised⟩ | ⟨raised, -⟩
  · cases raised
  · exact raised ⟨_, rfl⟩

end RealityAI.Proof.Plan
