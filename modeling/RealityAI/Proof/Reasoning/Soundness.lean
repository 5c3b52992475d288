import RealityAI.Proof.Reasoning.Search
import Mathlib.Data.Rat.Cast.Order

namespace RealityAI.Proof.Reasoning
open Library Python Model.Schemas Model.Reasoning Plan

def InProgress (day : Day) (t : Rat) (m : MeetingTime) : Bool :=
  day ∈ m.days && (m.start : Rat) ≤ t && t < m.«end»

structure Sound (candidates : List CourseSection) (completed : List String)
    (constraints : ScheduleConstraints) (o : ScheduleOption) : Prop where
  chosen : o.courses.Sublist candidates
  least : constraints.minCourses ≤ o.courses.length
  most : o.courses.length ≤ constraints.maxCourses
  hard : ∀ c ∈ o.courses, MeetsHard completed constraints c
  attended : ∀ day t, (o.courses.flatMap fun c => c.meetings).countP (InProgress day t) ≤ 1
  total : o.totalCredits = (o.courses.map fun c => c.credits).sum
  minCredits : ∀ bound, constraints.minCredits = some bound → bound ≤ o.totalCredits
  maxCredits : ∀ bound, constraints.maxCredits = some bound → o.totalCredits ≤ bound

theorem meetingsConflict_iff {ms : List MeetingTime} :
    meetingsConflict ms = false ↔ ms.Pairwise fun m m' => m.overlaps m' = false := by
  induction ms with
  | nil => simp [meetingsConflict]
  | cons m ms ih => simp [meetingsConflict, ih]

theorem overlaps_of_inProgress {day : Day} {t : Rat} {m m' : MeetingTime}
    (first : InProgress day t m = true) (second : InProgress day t m' = true) :
    m.overlaps m' = true := by
  simp only [InProgress, Bool.and_eq_true, decide_eq_true_eq] at first second
  obtain ⟨⟨onDay, started⟩, running⟩ := first
  obtain ⟨⟨onDay', started'⟩, running'⟩ := second
  have before : m.start < m'.«end» := by exact_mod_cast lt_of_le_of_lt started running'
  have before' : m'.start < m.«end» := by exact_mod_cast lt_of_le_of_lt started' running
  have shared : m.days.any (fun d => d ∈ m'.days) = true :=
    List.any_eq_true.mpr ⟨day, onDay, decide_eq_true onDay'⟩
  simp [MeetingTime.overlaps, shared, before, before']

theorem attended_of_apart {ms : List MeetingTime}
    (apart : ms.Pairwise fun m m' => m.overlaps m' = false) (day : Day) (t : Rat) :
    ms.countP (InProgress day t) ≤ 1 := by
  rw [List.countP_eq_length_filter]
  have running := apart.filter (InProgress day t)
  cases shown : ms.filter (InProgress day t) with
  | nil => exact Nat.zero_le 1
  | cons m later =>
      cases later with
      | nil => exact Nat.le_refl 1
      | cons m' later =>
          rw [shown] at running
          have first : m ∈ ms.filter (InProgress day t) := shown ▸ List.mem_cons_self
          have second : m' ∈ ms.filter (InProgress day t) :=
            shown ▸ List.mem_cons_of_mem _ List.mem_cons_self
          have together := overlaps_of_inProgress (List.mem_filter.mp first).2
            (List.mem_filter.mp second).2
          have never := (List.pairwise_cons.mp running).1 m' List.mem_cons_self
          rw [together] at never
          cases never

section
variable {candidates : List CourseSection} {completed : List String}
  {constraints : ScheduleConstraints} {combo : List CourseSection} {options : List ScheduleOption}

def ranked (combo : List CourseSection) : ScheduleOption :=
  { ScheduleOption.fromCourses combo with
    rankScore := combo.length + (ScheduleOption.fromCourses combo).totalCredits / 100 }

theorem rank_perm (combos : List (List CourseSection)) :
    (rank (combos.map ScheduleOption.fromCourses)).Perm (combos.map ranked) := by
  unfold rank sortedDown
  rw [List.map_map]
  exact List.perm_insertionSort _ _

theorem mem_found (solvable : Solvable candidates completed constraints)
    (mem : combo ∈ found candidates completed constraints) :
    combo.Sublist (candidates.filter (passes completed constraints)) ∧
      constraints.minCourses ≤ combo.length ∧ combo.length ≤ constraints.maxCourses ∧
      good constraints combo = true := by
  obtain ⟨first, fits⟩ := List.mem_filter.mp mem
  obtain ⟨size, sized, made⟩ := List.mem_flatMap.mp ((firsts_sublist _ _).subset first)
  obtain ⟨chosen, length⟩ := mem_combinations.mp made
  have nonneg := (sizes_nonneg_iff constraints).mpr solvable.sizes size sized
  obtain ⟨least, most⟩ := mem_sizes.mp sized
  exact ⟨chosen, by omega, by omega, fits⟩

theorem good_iff : good constraints combo = true ↔
    ((combo.flatMap fun c => c.meetings).Pairwise fun m m' => m.overlaps m' = false) ∧
      (∀ bound, constraints.minCredits = some bound → bound ≤ (ranked combo).totalCredits) ∧
      ∀ bound, constraints.maxCredits = some bound → (ranked combo).totalCredits ≤ bound := by
  rw [← meetingsConflict_iff, good, Bool.and_eq_true, Bool.not_eq_true', meetsCreditBounds,
    Bool.and_eq_true, Option.all_eq_true, Option.all_eq_true]
  simp [hasTimeConflict, ranked]

theorem sound_of_found (solvable : Solvable candidates completed constraints)
    (mem : combo ∈ found candidates completed constraints) :
    Sound candidates completed constraints (ranked combo) := by
  obtain ⟨chosen, least, most, fits⟩ := mem_found solvable mem
  obtain ⟨apart, minCredits, maxCredits⟩ := good_iff.mp fits
  refine ⟨chosen.trans List.filter_sublist, least, most, ?_, attended_of_apart apart, rfl,
    minCredits, maxCredits⟩
  intro c member
  exact passes_iff.mp (List.mem_filter.mp (chosen.subset member)).2

theorem found_distinct : (found candidates completed constraints).Pairwise fun combo combo' =>
    ¬ (codes combo).Perm (codes combo') := by
  apply List.Pairwise.filter
  apply (firsts_distinct [] _).imp
  intro combo combo' apart same
  exact apart (comboKey_eq_iff.mpr same)

end

/-- Whatever the solver returns is sound, and no two options have the same courses. -/
theorem solve_sound {candidates : List CourseSection} {completed : List String}
    {constraints : ScheduleConstraints} {options : List ScheduleOption}
    (ok : solve candidates completed constraints = .ok options) :
    (∀ o ∈ options, Sound candidates completed constraints o) ∧
      options.Pairwise fun o o' => ¬ (codes o.courses).Perm (codes o'.courses) := by
  have solvable := (solve_returns_iff candidates completed constraints).mp ⟨options, ok⟩
  have same := (solve_eq solvable).symm.trans ok
  cases same
  have perm := rank_perm (found candidates completed constraints)
  constructor
  · intro o mem
    obtain ⟨combo, member, made⟩ := List.mem_map.mp (perm.mem_iff.mp mem)
    exact made ▸ sound_of_found solvable member
  · apply (perm.pairwise_iff fun apart same => apart same.symm).mpr
    rw [List.pairwise_map]
    exact found_distinct

/-! A term with two sections of a course, courses that overlap, and for each hard constraint a course
that fails it. -/

def algebra : CourseSection :=
  ⟨"MATH210", "001", "S26", 4, "", [⟨[.T, .R], 36000000000, 40500000000⟩], []⟩

def lateAlgebra : CourseSection :=
  ⟨"MATH210", "002", "S26", 4, "", [⟨[.T, .R], 39600000000, 43200000000⟩], []⟩

def mechanics : CourseSection :=
  ⟨"PHYS150", "001", "S26", 4, "", [⟨[.T], 36000000000, 38700000000⟩], []⟩

def compilers : CourseSection :=
  ⟨"CS401", "001", "S26", 4, "", [⟨[.M, .W], 36000000000, 40500000000⟩], ["CS201"]⟩

def optics : CourseSection :=
  ⟨"PHYS250", "001", "S26", 3, "", [⟨[.M], 46800000000, 50400000000⟩], ["PHYS150"]⟩

def studio : CourseSection :=
  ⟨"ART110", "001", "S26", 3, "", [⟨[.W, .F], 46800000000, 50400000000⟩], []⟩

def seminar : CourseSection :=
  ⟨"HIST300", "001", "S26", 3, "", [⟨[.M], 66600000000, 72000000000⟩], []⟩

def term : List CourseSection :=
  [algebra, lateAlgebra, mechanics, compilers, optics, studio, seminar]

def weekdays : ScheduleConstraints where
  daysExcluded := ["F"]
  timeRange := some (⟨28800000000, false⟩, ⟨64800000000, false⟩)
  minCourses := 1
  maxCourses := 3
  minCredits := some 8
  maxCredits := some 8

theorem term_sound :
    (∀ o ∈ [ranked [algebra, compilers], ranked [mechanics, compilers]],
      Sound term ["CS201"] weekdays o) ∧
      [ranked [algebra, compilers], ranked [mechanics, compilers]].Pairwise fun o o' =>
        ¬ (codes o.courses).Perm (codes o'.courses) :=
  solve_sound (by decide +kernel)

end RealityAI.Proof.Reasoning
