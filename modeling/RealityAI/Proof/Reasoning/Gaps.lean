import RealityAI.Model.Reasoning
import Mathlib.Data.List.Basic

namespace RealityAI.Proof.Reasoning
open Model.Schemas Model.Reasoning

theorem requirement_induction {motive : RequirementNode → Prop}
    (node : ∀ requirementId kind name pool need children, (∀ c ∈ children, motive c) →
      motive (.node requirementId kind name pool need children)) : ∀ n, motive n
  | .node requirementId kind name pool need children =>
      node requirementId kind name pool need children (below children)
where
  below : ∀ children : List RequirementNode, ∀ c ∈ children, motive c
    | [], _, mem => nomatch mem
    | child :: children, c, mem => by
        rcases List.mem_cons.mp mem with same | later
        · exact same ▸ requirement_induction node child
        · exact below children c later

def nodeKind : RequirementNode → NodeKind
  | .node _ kind _ _ _ _ => kind

mutual

def satisfied (completed : List String) : RequirementNode → Bool
  | .node _ kind _ pool need children =>
      match kind with
      | .leaf => need ≤ (pool.filter fun c => c ∈ completed).length
      | .and => (satisfiedEach completed children).all id
      | .or => (satisfiedEach completed children).any id

def satisfiedEach (completed : List String) : List RequirementNode → List Bool
  | [] => []
  | child :: children => satisfied completed child :: satisfiedEach completed children

end

mutual

/-- The leaves in the order of the document, each with its ancestors. -/
def leaves : RequirementNode → List (List RequirementNode × RequirementNode)
  | .node requirementId kind name pool need children =>
      let n := RequirementNode.node requirementId kind name pool need children
      match kind with
      | .leaf => [([], n)]
      | _ => (leavesEach children).map fun p => (n :: p.1, p.2)

def leavesEach : List RequirementNode → List (List RequirementNode × RequirementNode)
  | [] => []
  | child :: children => leaves child ++ leavesEach children

end

def gap (completed : List String) : RequirementNode → UnsatisfiedRequirement
  | .node requirementId _ name pool need _ =>
      leafGap requirementId name pool need (pool.filter fun c => c ∈ completed)

/-- The unsatisfied leaves without a satisfied ancestor. -/
def stillNeeded (completed : List String) (root : RequirementNode) : List UnsatisfiedRequirement :=
  ((leaves root).filter fun p =>
    !satisfied completed p.2 && p.1.all fun a => !satisfied completed a).map fun p =>
      gap completed p.2

section
variable {completed : List String} {n : RequirementNode} {children : List RequirementNode}

theorem satisfiedEach_eq : satisfiedEach completed children = children.map (satisfied completed) := by
  induction children with
  | nil => rfl
  | cons child children ih => rw [satisfiedEach, ih, List.map_cons]

theorem leavesEach_eq : leavesEach children = children.flatMap leaves := by
  induction children with
  | nil => rfl
  | cons child children ih => rw [leavesEach, ih, List.flatMap_cons]

theorem walkAll_eq : walkAll completed false children =
    (children.map fun c => (walk completed false c).1,
      children.flatMap fun c => (walk completed false c).2) := by
  induction children with
  | nil => rfl
  | cons child children ih => rw [walkAll, ih, List.map_cons, List.flatMap_cons]

def openGaps (completed : List String) (paths : List (List RequirementNode × RequirementNode)) :
    List UnsatisfiedRequirement :=
  (paths.filter fun p => !satisfied completed p.2).map fun p => gap completed p.2

theorem openGaps_below (n : RequirementNode) (paths : List (List RequirementNode × RequirementNode)) :
    openGaps completed (paths.map fun p => (n :: p.1, p.2)) = openGaps completed paths := by
  rw [openGaps, List.filter_map, List.map_map]
  rfl

theorem openGaps_leavesEach : openGaps completed (leavesEach children) =
    children.flatMap fun c => openGaps completed (leaves c) := by
  rw [openGaps, leavesEach_eq, List.filter_flatMap, List.map_flatMap]
  rfl

theorem walk_eq (n : RequirementNode) :
    walk completed false n = (satisfied completed n, openGaps completed (leaves n)) := by
  induction n using requirement_induction with
  | node requirementId kind name pool need children ih =>
      have results : (children.map fun c => (walk completed false c).1) =
          satisfiedEach completed children := by
        rw [satisfiedEach_eq]
        exact List.map_congr_left fun c mem => congrArg Prod.fst (ih c mem)
      have out : (children.flatMap fun c => (walk completed false c).2) =
          openGaps completed (leavesEach children) := by
        rw [openGaps_leavesEach]
        exact List.flatMap_congr fun c mem => congrArg Prod.snd (ih c mem)
      cases kind with
      | leaf =>
          by_cases enough : need ≤ (pool.filter fun c => c ∈ completed).length
          · simp [walk, satisfied, leaves, openGaps, enough]
          · simp [walk, satisfied, leaves, openGaps, gap, enough]
      | and =>
          rw [walk, walkAll_eq, results, out, leaves, openGaps_below]
          · rfl
          · nofun
      | or =>
          rw [walk, walkAll_eq, results, out, leaves, openGaps_below]
          · rfl
          · nofun

theorem mem_leaves {requirementId name : String} {kind : NodeKind} {pool : List String} {need : Int}
    {p : List RequirementNode × RequirementNode}
    (mem : p ∈ leaves (.node requirementId kind name pool need children)) (inner : kind ≠ .leaf) :
    ∃ c ∈ children, ∃ above, (above, p.2) ∈ leaves c ∧
      p.1 = .node requirementId kind name pool need children :: above := by
  rw [leaves, leavesEach_eq] at mem
  · obtain ⟨q, member, made⟩ := List.mem_map.mp mem
    obtain ⟨c, child, below⟩ := List.mem_flatMap.mp member
    rw [← made]
    exact ⟨c, child, q.1, below, rfl⟩
  · exact inner

theorem satisfied_or_above (n : RequirementNode) {p : List RequirementNode × RequirementNode}
    (mem : p ∈ leaves n) (unsatisfied : satisfied completed p.2 = false)
    (satisfiedNode : satisfied completed n = true) :
    ∃ a ∈ p.1, nodeKind a = .or ∧ satisfied completed a = true := by
  induction n using requirement_induction generalizing p with
  | node requirementId kind name pool need children ih =>
      cases kind with
      | leaf =>
          rw [leaves, List.mem_singleton] at mem
          rw [mem, satisfiedNode] at unsatisfied
          cases unsatisfied
      | and =>
          -- All children are satisfied, so a satisfied OR stands further down the path.
          obtain ⟨c, child, above, below, path⟩ := mem_leaves mem nofun
          have each : satisfied completed c = true := by
            rw [satisfied, satisfiedEach_eq, List.all_map, List.all_eq_true] at satisfiedNode
            exact satisfiedNode c child
          obtain ⟨a, member, found⟩ := ih c child below unsatisfied each
          exact ⟨a, path ▸ List.mem_cons_of_mem _ member, found⟩
      | or =>
          obtain ⟨c, -, above, -, path⟩ := mem_leaves mem nofun
          exact ⟨_, path ▸ List.mem_cons_self, rfl, satisfiedNode⟩

theorem satisfied_or_of_ancestor (n : RequirementNode) {p : List RequirementNode × RequirementNode}
    (mem : p ∈ leaves n) (unsatisfied : satisfied completed p.2 = false)
    (ancestor : ∃ a ∈ p.1, satisfied completed a = true) :
    ∃ a ∈ p.1, nodeKind a = .or ∧ satisfied completed a = true := by
  induction n using requirement_induction generalizing p with
  | node requirementId kind name pool need children ih =>
      obtain ⟨a, member, satisfiedNode⟩ := ancestor
      cases kind with
      | leaf =>
          rw [leaves, List.mem_singleton] at mem
          rw [mem] at member
          cases member
      | and | or =>
          obtain ⟨c, child, above, below, path⟩ := mem_leaves mem nofun
          rw [path] at member
          rcases List.mem_cons.mp member with top | deeper
          · rw [top] at satisfiedNode
            exact satisfied_or_above _ mem unsatisfied satisfiedNode
          · obtain ⟨a, member, found⟩ := ih c child below unsatisfied ⟨a, deeper, satisfiedNode⟩
            exact ⟨a, path ▸ List.mem_cons_of_mem _ member, found⟩

theorem ancestors_open_iff (n : RequirementNode) {p : List RequirementNode × RequirementNode}
    (mem : p ∈ leaves n) (unsatisfied : satisfied completed p.2 = false) :
    (p.1.all fun a => !satisfied completed a) = true ↔
      ∀ a ∈ p.1, nodeKind a = .or → satisfied completed a = false := by
  rw [List.all_eq_true]
  constructor
  · intro clear a above _
    simpa using clear a above
  · intro clear a above
    cases done : satisfied completed a with
    | false => rfl
    | true =>
        obtain ⟨a', above', kind, done'⟩ :=
          satisfied_or_of_ancestor n mem unsatisfied ⟨a, above, done⟩
        rw [clear a' above' kind] at done'
        cases done'

theorem stillNeeded_of_satisfied (done : satisfied completed n = true) :
    stillNeeded completed n = [] := by
  rw [stillNeeded, List.map_eq_nil_iff, List.filter_eq_nil_iff]
  rintro ⟨above, leaf⟩ mem both
  rw [Bool.and_eq_true, Bool.not_eq_true', List.all_eq_true] at both
  obtain ⟨unsatisfied, open'⟩ := both
  obtain ⟨a, member, -, hidden⟩ := satisfied_or_above n mem unsatisfied done
  have shown := open' a member
  rw [hidden] at shown
  cases shown

end

/-- The gap analysis follows the AND/OR structure if and only if no unsatisfied leaf stands below a
satisfied OR. -/
theorem gaps_exact_iff (program : DegreeProgram) (transcript : StudentTranscript) :
    computeUnsatisfied program transcript = stillNeeded transcript.completed program.root ↔
      ∀ p ∈ leaves program.root, satisfied transcript.completed p.2 = false →
        ∀ a ∈ p.1, nodeKind a = .or → satisfied transcript.completed a = false := by
  have split : stillNeeded transcript.completed program.root =
      (((leaves program.root).filter fun p => !satisfied transcript.completed p.2).filter fun p =>
        p.1.all fun a => !satisfied transcript.completed a).map fun p =>
          gap transcript.completed p.2 := by
    rw [List.filter_filter, stillNeeded]
    simp only [Bool.and_comm]
  rw [computeUnsatisfied, walk_eq, split]
  constructor
  · intro same p mem unsatisfied
    have lengths := congrArg List.length same
    rw [openGaps, List.length_map, List.length_map] at lengths
    apply (ancestors_open_iff _ mem unsatisfied).mp
    apply List.length_filter_eq_length_iff.mp lengths.symm p
    exact List.mem_filter.mpr ⟨mem, by simp [unsatisfied]⟩
  · intro clear
    rw [List.filter_eq_self.mpr, openGaps]
    intro p member
    obtain ⟨mem, unsatisfied⟩ := List.mem_filter.mp member
    rw [Bool.not_eq_true'] at unsatisfied
    exact (ancestors_open_iff _ mem unsatisfied).mpr (clear p mem unsatisfied)

def choice : DegreeProgram where
  major := "CS"
  track := some "AI"
  cohort := "2024-2027"
  root := .node "root" .or "" [] 0
    [.node "theory" .leaf "" ["CS401"] 1 [], .node "systems" .leaf "" ["CS402"] 1 []]

theorem other_branch_reported :
    satisfied ["CS401"] choice.root = true ∧
      computeUnsatisfied choice ⟨"u1", [⟨"CS401", "A", 3, "F25", true⟩]⟩ ≠
        stillNeeded ["CS401"] choice.root ∧
      computeUnsatisfied choice ⟨"u1", [⟨"CS401", "A", 3, "F25", true⟩]⟩ =
        [⟨"systems", "systems", ["CS402"], 1, []⟩] := by
  decide

end RealityAI.Proof.Reasoning
