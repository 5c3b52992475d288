import RealityAI.Library.StableSort
import RealityAI.Proof.Reasoning.Completeness
import Mathlib.Tactic.Linarith

namespace RealityAI.Proof.Reasoning
open Library Python Model.Schemas Model.Reasoning Plan

/-- A collection of candidates that meets every constraint in the sections listed first. -/
structure Selectable (candidates : List CourseSection) (completed : List String)
    (constraints : ScheduleConstraints) (combo : List CourseSection) : Prop where
  solvable : Solvable candidates completed constraints
  accepted : Acceptable candidates completed constraints combo
  leads : Leading candidates completed constraints combo

def outranks (o o' : ScheduleOption) : Prop := o'.rankScore ≤ o.rankScore
  deriving Decidable

section
variable {candidates : List CourseSection} {completed : List String}
  {constraints : ScheduleConstraints}

theorem rank_eq (combos : List (List CourseSection)) :
    rank (combos.map ScheduleOption.fromCourses) = (combos.map ranked).insertionSort outranks := by
  rw [rank, List.map_map]
  rfl

theorem forall_options_iff {P : List ScheduleOption → Prop} :
    (∀ options, solve candidates completed constraints = .ok options → P options) ↔
      (Solvable candidates completed constraints →
        P (((found candidates completed constraints).map ranked).insertionSort outranks)) := by
  rw [← rank_eq]
  constructor
  · intro each solvable
    exact each _ (solve_eq solvable)
  · intro holds options ok
    have solvable := (solve_returns_iff candidates completed constraints).mp ⟨options, ok⟩
    have same := (solve_eq solvable).symm.trans ok
    cases same
    exact holds solvable

theorem selectable_of_found (solvable : Solvable candidates completed constraints)
    {combo : List CourseSection} (mem : combo ∈ found candidates completed constraints) :
    Selectable candidates completed constraints combo :=
  ⟨solvable, acceptable_of_found solvable mem, leading_of_found solvable mem⟩

theorem Selectable.found {combo : List CourseSection}
    (selectable : Selectable candidates completed constraints combo) :
    ∃ combo' ∈ Reasoning.found candidates completed constraints, combo'.Perm combo :=
  found_of_leading selectable.solvable selectable.accepted selectable.leads

end

/-- The options never name a course twice if and only if no collection that meets the constraints
takes two sections of one course. -/
theorem distinct_courses_iff (candidates : List CourseSection) (completed : List String)
    (constraints : ScheduleConstraints) :
    (∀ options, solve candidates completed constraints = .ok options →
        ∀ o ∈ options, (codes o.courses).Nodup) ↔
      ∀ combo, Selectable candidates completed constraints combo → (codes combo).Nodup := by
  rw [forall_options_iff]
  simp only [List.mem_insertionSort, List.forall_mem_map]
  constructor
  · intro each combo selectable
    obtain ⟨combo', mem, same⟩ := selectable.found
    exact (same.map _).nodup_iff.mp (each selectable.solvable combo' mem)
  · intro each solvable combo mem
    exact each combo (selectable_of_found solvable mem)

def eveningAlgebra : CourseSection :=
  ⟨"MATH210", "003", "S26", 4, "", [⟨[.T, .R], 64800000000, 69300000000⟩], []⟩

theorem algebra_twice :
    ¬ ∀ options, solve [algebra, eveningAlgebra] [] twoCourses = .ok options →
      ∀ o ∈ options, (codes o.courses).Nodup := by
  intro distinct
  have both : solve [algebra, eveningAlgebra] [] twoCourses =
      .ok [ranked [algebra, eveningAlgebra]] := by decide +kernel
  have once := distinct _ both _ List.mem_cons_self
  revert once
  decide

def Documented (o o' : ScheduleOption) : Prop :=
  o'.courses.length < o.courses.length ∨
    (o'.courses.length = o.courses.length ∧ o'.totalCredits ≤ o.totalCredits)

def alike (count : Nat) (total : Int) (o : ScheduleOption) : Bool :=
  o.courses.length = count ∧ o.totalCredits = total

/-- The order of the comment in the source, ties as enumerated. -/
structure RankedAsDocumented (enumeration options : List ScheduleOption) : Prop where
  ordered : options.Pairwise Documented
  stable : ∀ count total, options.filter (alike count total) = enumeration.filter (alike count total)

def credits (combo : List CourseSection) : Int := (combo.map fun c => c.credits).sum

section
variable {candidates : List CourseSection} {completed : List String}
  {constraints : ScheduleConstraints}

theorem ranked_outranks_iff (combo combo' : List CourseSection) :
    outranks (ranked combo) (ranked combo') ↔
      credits combo' - credits combo ≤ 100 * ((combo.length : Int) - combo'.length) := by
  have cast : (credits combo' - credits combo ≤ 100 * ((combo.length : Int) - combo'.length)) ↔
      ((credits combo' : Rat) - credits combo ≤ 100 * ((combo.length : Rat) - combo'.length)) := by
    exact_mod_cast Iff.rfl
  rw [cast]
  show (combo'.length : Rat) + (credits combo' : Rat) / 100 ≤
    (combo.length : Rat) + (credits combo : Rat) / 100 ↔ _
  constructor
  · intro le
    linarith
  · intro le
    linarith

theorem found_sizes :
    (found candidates completed constraints).Pairwise fun combo combo' =>
      combo.length ≤ combo'.length := by
  apply List.Pairwise.sublist List.filter_sublist
  apply List.Pairwise.sublist (firsts_sublist _ _)
  rw [enumerated, List.pairwise_flatMap]
  constructor
  · intro size mem
    apply List.pairwise_of_forall_mem_list
    intro combo made combo' made'
    exact ((mem_combinations.mp made).2.trans (mem_combinations.mp made').2.symm).le
  · rw [sizes, List.pairwise_map]
    apply List.pairwise_lt_range.imp
    intro i j less combo made combo' made'
    have first := (mem_combinations.mp made).2
    have second := (mem_combinations.mp made').2
    omega

theorem ranked_stable (combos : List (List CourseSection)) (count : Nat) (total : Int) :
    ((combos.map ranked).insertionSort outranks).filter (alike count total) =
      (combos.map ranked).filter (alike count total) := by
  apply filter_insertionSort
  intro o mem o' mem' here here'
  obtain ⟨combo, -, rfl⟩ := List.mem_map.mp mem
  obtain ⟨combo', -, rfl⟩ := List.mem_map.mp mem'
  obtain ⟨length, sum⟩ := of_decide_eq_true here
  obtain ⟨length', sum'⟩ := of_decide_eq_true here'
  have same : credits combo = credits combo' := sum.trans sum'.symm
  have sized : combo.length = combo'.length := length.trans length'.symm
  rw [ranked_outranks_iff, same, sized]
  omega

theorem documented_iff {combo combo' : List CourseSection} (size : combo.length ≤ combo'.length) :
    (if outranks (ranked combo) (ranked combo') then Documented (ranked combo) (ranked combo')
      else Documented (ranked combo') (ranked combo)) ↔
      (combo.length < combo'.length →
        credits combo - credits combo' < 100 * ((combo'.length : Int) - combo.length)) := by
  have documented (combo combo' : List CourseSection) :
      Documented (ranked combo) (ranked combo') ↔
        combo'.length < combo.length ∨
          (combo'.length = combo.length ∧ credits combo' ≤ credits combo) := Iff.rfl
  have compare := ranked_outranks_iff combo combo'
  by_cases first : outranks (ranked combo) (ranked combo')
  · have close := compare.mp first
    rw [if_pos first, documented]
    constructor
    · intro front less
      omega
    · intro worth
      omega
  · have far := mt compare.mpr first
    rw [if_neg first, documented]
    constructor
    · intro front less
      omega
    · intro worth
      omega

theorem found_documented_iff :
    (((found candidates completed constraints).map ranked).insertionSort outranks).Pairwise
        Documented ↔
      ∀ combo ∈ found candidates completed constraints,
        ∀ combo' ∈ found candidates completed constraints, combo.length < combo'.length →
        credits combo - credits combo' < 100 * ((combo'.length : Int) - combo.length) := by
  have total : Std.Total outranks := ⟨fun o o' => le_total o'.rankScore o.rankScore⟩
  have transitive : IsTrans ScheduleOption outranks := ⟨fun _ _ _ le le' => le'.trans le⟩
  rw [pairwise_insertionSort_iff, List.pairwise_map]
  constructor
  · intro each
    have pairs := (found_sizes.and each).imp fun both => (documented_iff both.1).mp both.2
    -- Only a combination found earlier can be smaller.
    intro combo mem combo' mem'
    refine List.Pairwise.forall_of_forall_of_flip ?_ pairs (found_sizes.imp ?_) mem mem'
    · intro combo _ less
      exact absurd less (Nat.lt_irrefl _)
    · intro combo combo' le less
      exact absurd less (Nat.not_lt.mpr le)
  · intro each
    apply (found_sizes.and (List.pairwise_of_forall_mem_list each)).imp
    intro combo combo' both
    exact (documented_iff both.1).mpr both.2

end

/-- The ranking follows its comment if and only if no collection has a hundred credits more for
every course that it has less. -/
theorem ranked_as_documented_iff (candidates : List CourseSection) (completed : List String)
    (constraints : ScheduleConstraints) :
    (∀ options, solve candidates completed constraints = .ok options →
        RankedAsDocumented ((found candidates completed constraints).map ranked) options) ↔
      ∀ combo combo', Selectable candidates completed constraints combo →
        Selectable candidates completed constraints combo' → combo.length < combo'.length →
        credits combo - credits combo' < 100 * ((combo'.length : Int) - combo.length) := by
  rw [forall_options_iff]
  constructor
  · intro each combo combo' selectable selectable' less
    obtain ⟨c, mem, same⟩ := selectable.found
    obtain ⟨c', mem', same'⟩ := selectable'.found
    have sum : credits c = credits combo := (same.map _).sum_eq
    have sum' : credits c' = credits combo' := (same'.map _).sum_eq
    have pairs := found_documented_iff.mp (each selectable.solvable).ordered c mem c' mem'
    rw [sum, sum', same.length_eq, same'.length_eq] at pairs
    exact pairs less
  · intro each solvable
    refine ⟨found_documented_iff.mpr fun combo mem combo' mem' => ?_, ranked_stable _⟩
    exact each combo combo' (selectable_of_found solvable mem) (selectable_of_found solvable mem')

def thesis : CourseSection := ⟨"CS499", "001", "S26", 300, "", [], []⟩

def oneOrTwo : ScheduleConstraints := { minCourses := 1, maxCourses := 2, maxCredits := some 300 }

def logic : CourseSection :=
  ⟨"CS201", "001", "S26", 4, "", [⟨[.M], 36000000000, 38700000000⟩], []⟩

theorem thesis_first :
    ¬ ∀ options, solve [thesis, algebra, logic] [] oneOrTwo = .ok options →
      RankedAsDocumented ((found [thesis, algebra, logic] [] oneOrTwo).map ranked) options := by
  intro documented
  have options : solve [thesis, algebra, logic] [] oneOrTwo =
      .ok [ranked [thesis], ranked [algebra, logic], ranked [algebra], ranked [logic]] := by
    decide +kernel
  have first := List.rel_of_pairwise_cons (documented _ options).ordered List.mem_cons_self
  revert first
  unfold Documented
  decide

end RealityAI.Proof.Reasoning
