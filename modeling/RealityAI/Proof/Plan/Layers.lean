import RealityAI.Proof.Plan.Validation
import Mathlib.Data.List.Perm.Basic

namespace RealityAI.Proof.Plan
open Relation Library.Dependency Model.Schemas

section
variable (p : Plan)

theorem valid : ValidDag p.steps := by
  obtain ⟨order, accepted⟩ := p.accepted
  exact (validateDag_ok_iff p.steps order).mp accepted

theorem needs_mem {a b : Int} (before : Before (needs p.steps) a b) : a ∈ stepIds p.steps := by
  obtain ⟨s, mem, -, dependsOn⟩ := (mem_needs p.steps).mp before
  exact mem_stepIds.mpr ((valid p).known s mem a dependsOn)

theorem wellFounded : WellFounded (Before (needs p.steps)) :=
  wellFounded_of_acyclic _ (fun _ _ => needs_mem p) (valid p).acyclic

noncomputable def level (stepId : Int) : Nat := depth (wellFounded p) stepId

theorem step_ext {s s' : PlanStep} (mem : s ∈ p.steps) (mem' : s' ∈ p.steps)
    (same : s.stepId = s'.stepId) : s = s' :=
  List.inj_on_of_nodup_map (valid p).distinct mem mem' same

theorem steps_nodup : p.steps.Nodup := (valid p).distinct.of_map

theorem find?_eq_some_iff {i : Int} {s : PlanStep} :
    p.find? i = some s ↔ s ∈ p.steps ∧ s.stepId = i := by
  constructor
  · intro found
    exact ⟨List.mem_of_find?_eq_some found, by simpa using List.find?_some found⟩
  · intro ⟨mem, same⟩
    subst same
    cases found : p.find? s.stepId with
    | none => simpa using List.find?_eq_none.mp found s mem
    | some s' =>
        have same : s'.stepId = s.stepId := by simpa using List.find?_some found
        rw [step_ext p (List.mem_of_find?_eq_some found) mem same]

theorem needs_step {s : PlanStep} (mem : s ∈ p.steps) :
    needs p.steps s.stepId = s.dependsOn.toFinset := by
  ext a
  rw [mem_needs, List.mem_toFinset]
  constructor
  · intro ⟨s', mem', same, dependsOn⟩
    rwa [← step_ext p mem' mem same]
  · exact fun dependsOn => ⟨s, mem, rfl, dependsOn⟩

theorem level_le_iff {s : PlanStep} (mem : s ∈ p.steps) {n : Nat} :
    level p s.stepId ≤ n ↔ ∀ a ∈ s.dependsOn, level p a < n := by
  rw [level, depth_le_iff, needs_step p mem]
  simp only [List.mem_toFinset]
  rfl

noncomputable def layerIds (k : Nat) : List Int :=
  ((p.steps.filter fun s => level p s.stepId = k).map fun s => s.stepId).insertionSort (· ≤ ·)

noncomputable def remaining (k : Nat) : Remaining :=
  (p.steps.filter fun s => k ≤ level p s.stepId).map fun s =>
    (s.stepId, s.dependsOn.toFinset.filter fun a => k ≤ level p a)

theorem mem_layerIds {k : Nat} {i : Int} : i ∈ layerIds p k ↔ i ∈ stepIds p.steps ∧ level p i = k := by
  rw [layerIds, (List.perm_insertionSort _ _).mem_iff, mem_stepIds]
  simp only [List.mem_map, List.mem_filter, decide_eq_true_eq]
  constructor
  · intro ⟨s, ⟨mem, here⟩, same⟩
    subst same
    exact ⟨⟨s, mem, rfl⟩, here⟩
  · intro ⟨⟨s, mem, same⟩, here⟩
    subst same
    exact ⟨s, ⟨mem, here⟩, rfl⟩

theorem remaining_zero :
    remaining p 0 = p.steps.map fun s => (s.stepId, s.dependsOn.toFinset) := by
  simp [remaining]

theorem ready_iff {k : Nat} {s : PlanStep} (mem : s ∈ p.steps) (here : k ≤ level p s.stepId) :
    (s.dependsOn.toFinset.filter fun a => k ≤ level p a) = ∅ ↔ level p s.stepId = k := by
  simp only [Finset.filter_eq_empty_iff, List.mem_toFinset, Nat.not_le]
  rw [← level_le_iff p mem]
  exact ⟨fun le => Nat.le_antisymm le here, fun same => same.le⟩

theorem readyIds_remaining (k : Nat) : readyIds (remaining p k) = layerIds p k := by
  rw [readyIds, layerIds, remaining, List.filter_map, List.map_map, List.filter_filter]
  congr 2
  apply List.filter_congr
  intro s mem
  by_cases here : k ≤ level p s.stepId
  · simp [here, ready_iff p mem here]
  · have : level p s.stepId ≠ k := by omega
    simp [here, this]

theorem dropReady_remaining (k : Nat) :
    dropReady (layerIds p k) (remaining p k) = remaining p (k + 1) := by
  rw [dropReady, remaining, remaining, List.filter_map, List.map_map, List.filter_filter]
  have kept : (p.steps.filter fun s =>
      decide (s.stepId ∉ layerIds p k) && decide (k ≤ level p s.stepId)) =
      p.steps.filter fun s => k + 1 ≤ level p s.stepId := by
    apply List.filter_congr
    intro s mem
    have listed : s.stepId ∈ stepIds p.steps := mem_stepIds.mpr ⟨s, mem, rfl⟩
    simp only [mem_layerIds, listed, true_and, ← Bool.decide_and, decide_eq_decide]
    omega
  rw [show ((fun entry : Int × Finset Int => decide (entry.1 ∉ layerIds p k)) ∘
    fun s : PlanStep => (s.stepId, s.dependsOn.toFinset.filter fun a => k ≤ level p a)) =
      fun s => decide (s.stepId ∉ layerIds p k) from rfl, kept]
  apply List.map_congr_left
  intro s mem
  refine Prod.ext rfl (Finset.ext fun a => ?_)
  simp only [Function.comp_apply, Finset.mem_sdiff, Finset.mem_filter, List.mem_toFinset,
    mem_layerIds]
  refine and_assoc.trans (and_congr_right fun dependsOn => ?_)
  have listed : a ∈ stepIds p.steps :=
    mem_stepIds.mpr ((valid p).known s (List.mem_filter.mp mem).1 a dependsOn)
  simp only [listed, true_and]
  omega

noncomputable def height : Nat := (stepIds p.steps).sup fun i => level p i + 1

theorem level_lt_height {s : PlanStep} (mem : s ∈ p.steps) : level p s.stepId < height p :=
  Finset.le_sup (f := fun i => level p i + 1) (mem_stepIds.mpr ⟨s, mem, rfl⟩)

theorem layerIds_nonempty {k : Nat} (lt : k < height p) : layerIds p k ≠ [] := by
  obtain ⟨b, listed, deep⟩ := (Finset.lt_sup_iff).mp lt
  obtain ⟨a, path, found⟩ := exists_depth_eq (wellFounded p) (Nat.lt_succ_iff.mp deep)
  have mem : a ∈ stepIds p.steps := by
    rcases path.cases_head with rfl | ⟨c, before, -⟩
    · exact listed
    · exact needs_mem p before
  exact List.ne_nil_of_mem ((mem_layerIds p).mpr ⟨mem, found⟩)

theorem remaining_eq_nil {k : Nat} (le : height p ≤ k) : remaining p k = [] := by
  rw [remaining, List.map_eq_nil_iff, List.filter_eq_nil_iff]
  intro s mem
  have := level_lt_height p mem
  simp only [decide_eq_true_eq]
  omega

theorem layersLoop_remaining (n k : Nat) (rest : height p = k + n) :
    layersLoop (remaining p k) = .ok ((List.range' k n).map (layerIds p)) := by
  induction n generalizing k with
  | zero =>
      rw [remaining_eq_nil p (k := k) rest.le, layersLoop]
      rfl
  | succ n ih =>
      have some := layerIds_nonempty p (k := k) (by omega)
      have nonempty : remaining p k ≠ [] := by
        intro empty
        rw [← readyIds_remaining, empty] at some
        exact some rfl
      rw [layersLoop, if_neg nonempty]
      simp only [readyIds_remaining, dif_neg some, dropReady_remaining]
      rw [ih (k + 1) (by omega)]
      rfl

noncomputable def layer (k : Nat) : List PlanStep := (layerIds p k).filterMap p.find?

theorem topologicalLayers_eq :
    p.topologicalLayers = .ok ((List.range (height p)).map (layer p)) := by
  have loop := layersLoop_remaining p (height p) 0 (by omega)
  rw [remaining_zero] at loop
  rw [Plan.topologicalLayers, loop, ← List.range_eq_range']
  show Except.ok _ = _
  rw [List.map_map]
  rfl

theorem mem_layer {k : Nat} {s : PlanStep} : s ∈ layer p k ↔ s ∈ p.steps ∧ level p s.stepId = k := by
  simp only [layer, List.mem_filterMap, mem_layerIds, find?_eq_some_iff, mem_stepIds]
  constructor
  · intro ⟨i, ⟨_, here⟩, mem, same⟩
    subst same
    exact ⟨mem, here⟩
  · intro ⟨mem, here⟩
    exact ⟨s.stepId, ⟨⟨s, mem, rfl⟩, here⟩, mem, rfl⟩

theorem layer_map_stepId (k : Nat) : (layer p k).map (fun s => s.stepId) = layerIds p k := by
  rw [layer, List.map_filterMap]
  conv_rhs => rw [← List.filterMap_some (l := layerIds p k)]
  apply List.filterMap_congr
  intro i mem
  obtain ⟨⟨s, inside, rfl⟩, -⟩ := by simpa [mem_stepIds] using (mem_layerIds p).mp mem
  rw [(find?_eq_some_iff p).mpr ⟨inside, rfl⟩]
  rfl

theorem layerIds_nodup (k : Nat) : (layerIds p k).Nodup := by
  rw [layerIds, (List.perm_insertionSort _ _).nodup_iff]
  exact (valid p).distinct.sublist (List.filter_sublist.map _)

theorem layer_sorted (k : Nat) : (layer p k).Pairwise fun s s' => s.stepId < s'.stepId := by
  have ordered : (layerIds p k).Pairwise (· ≤ ·) := List.pairwise_insertionSort (· ≤ ·) _
  have strict := ordered.imp₂ (fun a b le ne => lt_of_le_of_ne le ne) (layerIds_nodup p k)
  rw [← layer_map_stepId, List.pairwise_map] at strict
  exact strict

theorem layer_nonempty {k : Nat} (lt : k < height p) : layer p k ≠ [] := by
  intro empty
  have := layer_map_stepId p k
  rw [empty] at this
  exact layerIds_nonempty p lt this.symm

theorem layers_perm : ((List.range (height p)).map (layer p)).flatten.Perm p.steps := by
  rw [← List.flatMap_def]
  have nodup : ((List.range (height p)).flatMap (layer p)).Nodup := by
    rw [List.nodup_flatMap]
    refine ⟨fun k _ => ?_, ?_⟩
    · exact (layer_map_stepId p k ▸ layerIds_nodup p k).of_map
    · refine List.nodup_range.imp fun {k k'} differ => ?_
      intro s here there
      exact differ (((mem_layer p).mp here).2.symm.trans ((mem_layer p).mp there).2)
  rw [List.perm_ext_iff_of_nodup nodup (steps_nodup p)]
  intro s
  simp only [List.mem_flatMap, List.mem_range, mem_layer]
  constructor
  · intro found
    obtain ⟨k, -, mem, -⟩ := found
    exact mem
  · exact fun mem => ⟨_, level_lt_height p mem, mem, rfl⟩

def layerIndex (layers : List (List PlanStep)) (stepId : Int) : Nat :=
  layers.findIdx fun layer => layer.any fun s => s.stepId = stepId

theorem layerIndex_eq {i : Int} (mem : i ∈ stepIds p.steps) :
    layerIndex ((List.range (height p)).map (layer p)) i = level p i := by
  obtain ⟨s, inside, rfl⟩ := mem_stepIds.mp mem
  have bound := level_lt_height p inside
  have holds (k : Nat) : ((layer p k).any fun s' => s'.stepId = s.stepId) = true ↔
      level p s.stepId = k := by
    simp only [List.any_eq_true, mem_layer, decide_eq_true_eq]
    constructor
    · intro ⟨s', ⟨_, here⟩, same⟩
      rwa [← same]
    · exact fun here => ⟨s, ⟨inside, here⟩, rfl⟩
  have short : level p s.stepId < ((List.range (height p)).map (layer p)).length := by simpa
  rw [layerIndex, List.findIdx_eq short]
  constructor
  · simpa using (holds _).mpr rfl
  · intro k earlier
    rw [← Bool.not_eq_true]
    simpa using fun s' mem' same => earlier.ne' ((holds k).mp (by simpa using ⟨s', mem', same⟩))

def depthOf (indices : List Nat) : Nat :=
  match indices.max? with
  | none => 0
  | some m => 1 + m

structure Layered (layers : List (List PlanStep)) : Prop where
  partition : layers.flatten.Perm p.steps
  nonempty : ∀ layer ∈ layers, layer ≠ []
  sorted : ∀ layer ∈ layers, layer.Pairwise fun s s' => s.stepId < s'.stepId
  index : ∀ i layer, layers[i]? = some layer → ∀ s ∈ layer,
    i = depthOf (s.dependsOn.map (layerIndex layers))

theorem level_eq_max {s : PlanStep} (mem : s ∈ p.steps) :
    level p s.stepId = depthOf (s.dependsOn.map (level p)) := by
  rw [depthOf]
  split
  · rename_i empty
    have alone : s.dependsOn = [] := by simpa using empty
    exact Nat.le_zero.mp ((level_le_iff p mem).mpr (by simp [alone]))
  · rename_i m greatest
    rw [List.max?_eq_some_iff] at greatest
    obtain ⟨attained, above⟩ := greatest
    obtain ⟨a, dependsOn, rfl⟩ := List.mem_map.mp attained
    apply Nat.le_antisymm
    · rw [level_le_iff p mem, Nat.add_comm]
      intro b dependsOn
      exact Nat.lt_succ_of_le (above _ (List.mem_map.mpr ⟨b, dependsOn, rfl⟩))
    · rw [Nat.add_comm]
      exact (level_le_iff p mem).mp le_rfl a dependsOn

theorem topologicalLayers_layered :
    Layered p ((List.range (height p)).map (layer p)) := by
  refine ⟨layers_perm p, ?_, ?_, ?_⟩
  · simp only [List.mem_map, List.mem_range]
    intro _ ⟨k, lt, same⟩
    subst same
    exact layer_nonempty p lt
  · simp only [List.mem_map]
    intro _ ⟨k, _, same⟩
    subst same
    exact layer_sorted p k
  · intro i found position s mem
    rw [List.getElem?_map, Option.map_eq_some_iff] at position
    obtain ⟨k, place, rfl⟩ := position
    obtain ⟨bound, same⟩ := List.getElem?_eq_some_iff.mp place
    obtain rfl : i = k := by rwa [List.getElem_range] at same
    obtain ⟨inside, rfl⟩ := (mem_layer p).mp mem
    rw [level_eq_max p inside]
    congr 1
    apply List.map_congr_left
    intro a dependsOn
    have listed : a ∈ stepIds p.steps := mem_stepIds.mpr ((valid p).known s inside a dependsOn)
    exact (layerIndex_eq p listed).symm

/-- Validation accepts exactly the DAGs, and the layers of an accepted plan are its depths. -/
theorem plan_dag_layers :
    (∀ (order : SetOrder) (steps : List PlanStep) (reasoning : String),
      (∃ p, Plan.construct order steps reasoning = .ok p ∧ p.steps = steps) ↔ ValidDag steps) ∧
    ∀ p : Plan, ∃ layers, p.topologicalLayers = .ok layers ∧ Layered p layers :=
  ⟨fun order steps reasoning => construct_ok_iff steps order reasoning,
    fun p => ⟨_, topologicalLayers_eq p, topologicalLayers_layered p⟩⟩

end

end RealityAI.Proof.Plan
