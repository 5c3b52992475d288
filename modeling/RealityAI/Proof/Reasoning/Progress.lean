import RealityAI.Proof.Reasoning.Gaps
import Mathlib.Data.Finset.Card
import Mathlib.Data.Finset.Dedup

namespace RealityAI.Proof.Reasoning
open Model.Schemas Model.Reasoning

structure Reduced (before after : UnsatisfiedRequirement) : Prop where
  requirementId : after.requirementId = before.requirementId
  name : after.name = before.name
  pool : after.pool = before.pool
  need : after.need ≤ before.need
  already : before.alreadySatisfiedBy.Sublist after.alreadySatisfiedBy

def unsatisfiedLeaves (completed : List String) (root : RequirementNode) :
    List (List RequirementNode × RequirementNode) :=
  (leaves root).filter fun p => !satisfied completed p.2

theorem computeUnsatisfied_eq (program : DegreeProgram) (transcript : StudentTranscript) :
    computeUnsatisfied program transcript =
      (unsatisfiedLeaves transcript.completed program.root).map fun p =>
        gap transcript.completed p.2 := by
  rw [computeUnsatisfied, walk_eq]
  rfl

def Follows (completed : List String) (r : UnsatisfiedRequirement) : Prop :=
  ∃ courses : Finset String, r.need ≤ courses.card ∧
    ∀ c ∈ courses, c ∈ r.pool ∧ c ∉ r.alreadySatisfiedBy ∧ c ∈ completed

theorem leaf_of_mem {root : RequirementNode} {p : List RequirementNode × RequirementNode}
    (mem : p ∈ leaves root) : ∃ requirementId name pool need children,
      p.2 = .node requirementId .leaf name pool need children := by
  induction root using requirement_induction generalizing p with
  | node requirementId kind name pool need children ih =>
      cases kind with
      | leaf =>
          rw [leaves, List.mem_singleton] at mem
          rw [mem]
          exact ⟨_, _, _, _, _, rfl⟩
      | and | or =>
          obtain ⟨c, child, above, below, -⟩ := mem_leaves mem (by simp)
          exact @ih c child (above, p.2) below

section
variable {completed completed' : List String} (grows : completed ⊆ completed')
include grows

theorem passed_sublist (pool : List String) :
    (pool.filter fun c => c ∈ completed).Sublist (pool.filter fun c => c ∈ completed') := by
  apply List.monotone_filter_right
  intro c
  simpa using @grows c

theorem passed_length (pool : List String) :
    ((pool.filter fun c => c ∈ completed).length : Int) ≤
      (pool.filter fun c => c ∈ completed').length :=
  Int.ofNat_le.mpr (passed_sublist grows pool).length_le

theorem satisfied_mono (n : RequirementNode) (done : satisfied completed n = true) :
    satisfied completed' n = true := by
  induction n using requirement_induction with
  | node requirementId kind name pool need children ih =>
      cases kind with
      | leaf =>
          rw [satisfied] at done ⊢
          exact decide_eq_true ((of_decide_eq_true done).trans (passed_length grows pool))
      | and =>
          rw [satisfied, satisfiedEach_eq, List.all_map, List.all_eq_true] at done ⊢
          exact fun c mem => ih c mem (done c mem)
      | or =>
          rw [satisfied, satisfiedEach_eq, List.any_map, List.any_eq_true] at done ⊢
          obtain ⟨c, mem, here⟩ := done
          exact ⟨c, mem, ih c mem here⟩

theorem gap_reduced (n : RequirementNode) : Reduced (gap completed n) (gap completed' n) := by
  obtain ⟨requirementId, kind, name, pool, need, children⟩ := n
  refine ⟨rfl, rfl, rfl, ?_, passed_sublist grows pool⟩
  exact Int.sub_le_sub_left (passed_length grows pool) need

theorem unsatisfiedLeaves_sublist (root : RequirementNode) :
    (unsatisfiedLeaves completed' root).Sublist (unsatisfiedLeaves completed root) := by
  apply List.monotone_filter_right
  intro p unmet
  cases done : satisfied completed p.2 with
  | false => rfl
  | true =>
      rw [satisfied_mono grows p.2 done] at unmet
      cases unmet

theorem passed_add_card (pool : List String) (courses : Finset String)
    (new : ∀ c ∈ courses, c ∈ pool ∧ c ∉ completed ∧ c ∈ completed') :
    (pool.filter fun c => c ∈ completed).length + courses.card ≤
      (pool.filter fun c => c ∈ completed').length := by
  let passed := pool.filter fun c => c ∈ completed'
  have before : (passed.filter fun c => c ∈ completed) = pool.filter fun c => c ∈ completed := by
    rw [List.filter_filter]
    apply List.filter_congr
    intro c _
    have grow : c ∈ completed → c ∈ completed' := @grows c
    simpa using grow
  have inside : courses ⊆ (passed.filter fun c => !decide (c ∈ completed)).toFinset := by
    intro c mem
    obtain ⟨listed, old, late⟩ := new c mem
    simp [passed, listed, old, late]
  have count := (Finset.card_le_card inside).trans (List.toFinset_card_le _)
  have split := passed.length_eq_length_filter_add fun c => c ∈ completed
  rw [before] at split
  show _ ≤ passed.length
  omega

theorem leaf_satisfied {root : RequirementNode} {p : List RequirementNode × RequirementNode}
    (mem : p ∈ leaves root)
    (followed : satisfied completed p.2 = false → Follows completed' (gap completed p.2)) :
    satisfied completed' p.2 = true := by
  cases done : satisfied completed p.2 with
  | true => exact satisfied_mono grows p.2 done
  | false =>
      obtain ⟨courses, enough, new⟩ := followed done
      obtain ⟨requirementId, name, pool, need, children, leaf⟩ := leaf_of_mem mem
      rw [leaf] at new enough ⊢
      have more := passed_add_card grows pool courses fun c member => by
        obtain ⟨listed, absent, late⟩ := new c member
        refine ⟨listed, fun old => absent ?_, late⟩
        exact List.mem_filter.mpr ⟨listed, decide_eq_true old⟩
      have reduced : need - ((pool.filter fun c => c ∈ completed).length : Int) ≤ courses.card :=
        enough
      rw [satisfied]
      apply decide_eq_true
      omega

end

/-- Whoever takes, for each reported requirement, as many new courses of its pool as are reported to
be needed, has no gap left. -/
theorem followed_report_closes (program : DegreeProgram) (before after : StudentTranscript)
    (grows : before.completed ⊆ after.completed)
    (followed : ∀ r ∈ computeUnsatisfied program before, Follows after.completed r) :
    computeUnsatisfied program after = [] := by
  rw [computeUnsatisfied_eq, List.map_eq_nil_iff, unsatisfiedLeaves, List.filter_eq_nil_iff]
  intro p mem unmet
  rw [leaf_satisfied grows mem] at unmet
  · cases unmet
  · intro open'
    apply followed
    rw [computeUnsatisfied_eq]
    exact List.mem_map_of_mem (List.mem_filter.mpr ⟨mem, by simp [open']⟩)

def theory : DegreeProgram where
  major := "CS"
  track := none
  cohort := "2024-2027"
  root := .node "root" .and "" [] 0
    [.node "theory" .leaf "" ["CS401", "CS401", "CS402", "CS403"] 4 [],
      .node "logic" .leaf "" ["CS402"] 1 []]

def passing (courses : List String) : StudentTranscript where
  userId := "u1"
  entries := courses.map fun c => ⟨c, "A", 3, "F25", true⟩

theorem theory_closes : computeUnsatisfied theory (passing ["CS401", "CS402", "CS403"]) = [] := by
  apply followed_report_closes theory (passing ["CS401"])
  · decide
  · have report : computeUnsatisfied theory (passing ["CS401"]) =
        [⟨"theory", "theory", ["CS401", "CS401", "CS402", "CS403"], 2, ["CS401", "CS401"]⟩,
          ⟨"logic", "logic", ["CS402"], 1, []⟩] := by decide
    rw [report]
    intro r mem
    rcases List.mem_cons.mp mem with rfl | mem
    · exact ⟨{"CS402", "CS403"}, by decide, by decide⟩
    · rw [List.mem_singleton.mp mem]
      exact ⟨{"CS402"}, by decide, by decide⟩

/-- Passing more courses opens no gap: what is reported later was reported before for the same leaf,
and a satisfied program stays satisfied. -/
theorem gaps_shrink (program : DegreeProgram) (before after : StudentTranscript)
    (grows : before.completed ⊆ after.completed) :
    ((walk before.completed false program.root).1 = true →
        (walk after.completed false program.root).1 = true) ∧
      ∃ opened stillOpen : List (List RequirementNode × RequirementNode),
        stillOpen.Sublist opened ∧ opened.Sublist (leaves program.root) ∧
        computeUnsatisfied program before = opened.map (fun p => gap before.completed p.2) ∧
        computeUnsatisfied program after = stillOpen.map (fun p => gap after.completed p.2) ∧
        ∀ p ∈ stillOpen, Reduced (gap before.completed p.2) (gap after.completed p.2) := by
  refine ⟨?_, unsatisfiedLeaves before.completed program.root,
    unsatisfiedLeaves after.completed program.root, ?_, ?_, ?_, ?_, ?_⟩
  · rw [walk_eq, walk_eq]
    exact satisfied_mono grows program.root
  · exact unsatisfiedLeaves_sublist grows program.root
  · exact List.filter_sublist
  · exact computeUnsatisfied_eq program before
  · exact computeUnsatisfied_eq program after
  · exact fun p _ => gap_reduced grows p.2

theorem theory_shrinks :
    ((walk (passing ["CS401"]).completed false theory.root).1 = true →
        (walk (passing ["CS401", "CS402"]).completed false theory.root).1 = true) ∧
      ∃ opened stillOpen : List (List RequirementNode × RequirementNode),
        stillOpen.Sublist opened ∧ opened.Sublist (leaves theory.root) ∧
        computeUnsatisfied theory (passing ["CS401"]) =
          opened.map (fun p => gap (passing ["CS401"]).completed p.2) ∧
        computeUnsatisfied theory (passing ["CS401", "CS402"]) =
          stillOpen.map (fun p => gap (passing ["CS401", "CS402"]).completed p.2) ∧
        ∀ p ∈ stillOpen, Reduced (gap (passing ["CS401"]).completed p.2)
          (gap (passing ["CS401", "CS402"]).completed p.2) :=
  gaps_shrink theory (passing ["CS401"]) (passing ["CS401", "CS402"]) (by decide)

end RealityAI.Proof.Reasoning
