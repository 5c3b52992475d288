import RealityAI.Library.Firsts
import RealityAI.Proof.Plan.Acceptance
import Mathlib.Data.List.Sort

namespace RealityAI.Proof.Reasoning
open Library Python Model.Schemas Model.Reasoning Plan

def codes (combo : List CourseSection) : List String := combo.map CourseSection.courseCode

def comboKey (combo : List CourseSection) : List String := sorted (codes combo)

theorem comboKey_eq_iff {combo combo' : List CourseSection} :
    comboKey combo = comboKey combo' ↔ (codes combo).Perm (codes combo') := by
  have perm (combo : List CourseSection) : (comboKey combo).Perm (codes combo) :=
    List.perm_insertionSort _ _
  constructor
  · intro same
    exact (perm combo).symm.trans (same ▸ perm combo')
  · intro same
    apply List.Perm.eq_of_pairwise' (r := (· ≤ ·))
    · exact List.pairwise_insertionSort _ _
    · exact List.pairwise_insertionSort _ _
    · exact ((perm combo).trans same).trans (perm combo').symm

def Inside (lo hi : ClockTime) (m : MeetingTime) : Prop :=
  lo.aware = false ∧ hi.aware = false ∧ lo.micros ≤ m.start ∧ m.«end» ≤ hi.micros

structure MeetsHard (completed : List String) (constraints : ScheduleConstraints)
    (c : CourseSection) : Prop where
  days : ∀ m ∈ c.meetings, ∀ d ∈ m.days, d.letter ∉ constraints.daysExcluded
  prereqs : ∀ p ∈ c.prereqs, p ∈ completed
  inside : ∀ lo hi, constraints.timeRange = some (lo, hi) → ∀ m ∈ c.meetings, Inside lo hi m

section
variable {completed : List String} {constraints : ScheduleConstraints} {c : CourseSection}
  {candidates : List CourseSection} {lo hi : ClockTime}

theorem outsideRange_iff {m : MeetingTime} : outsideRange lo hi m = .ok false ↔ Inside lo hi m := by
  unfold outsideRange Inside
  cases lo.aware with
  | true => simp
  | false =>
      by_cases early : m.start < lo.micros
      · simp [early]
      · cases hi.aware with
        | true => simp [early]
        | false => simp [early, Nat.le_of_not_lt early]

theorem withinRange_iff {ms : List MeetingTime} :
    withinRange lo hi ms = .ok true ↔ ∀ m ∈ ms, Inside lo hi m := by
  induction ms with
  | nil => simp [withinRange]
  | cons m ms ih =>
      rw [withinRange, List.forall_mem_cons, ← outsideRange_iff, ← ih]
      cases outsideRange lo hi m with
      | error e => simp
      | ok outside =>
          cases outside with
          | true => exact iff_of_false (by rintro ⟨⟩) (by simp)
          | false => simp

theorem meetsHardConstraints_iff :
    meetsHardConstraints c completed constraints = .ok true ↔ MeetsHard completed constraints c := by
  have free : c.hasMeetingOnDays constraints.daysExcluded = false ↔
      ∀ m ∈ c.meetings, ∀ d ∈ m.days, d.letter ∉ constraints.daysExcluded := by
    simp [CourseSection.hasMeetingOnDays]
  unfold meetsHardConstraints
  cases off : c.hasMeetingOnDays constraints.daysExcluded with
  | true =>
      refine iff_of_false (by simp) fun hard => ?_
      rw [free.mpr hard.days] at off
      cases off
  | false =>
      cases unmet : c.prereqs.any fun p => p ∉ completed with
      | true =>
          obtain ⟨p, mem, absent⟩ := List.any_eq_true.mp unmet
          refine iff_of_false (by simp) fun hard => ?_
          exact of_decide_eq_true absent (hard.prereqs p mem)
      | false =>
          have met : ∀ p ∈ c.prereqs, p ∈ completed := by simpa using unmet
          cases range : constraints.timeRange with
          | none => exact iff_of_true rfl ⟨free.mp off, met, by simp [range]⟩
          | some range' =>
              show withinRange range'.1 range'.2 c.meetings = .ok true ↔ _
              rw [withinRange_iff]
              constructor
              · intro inside
                refine ⟨free.mp off, met, fun lo hi same => ?_⟩
                rw [range, Option.some.injEq] at same
                rwa [same] at inside
              · intro hard
                exact hard.inside range'.1 range'.2 range

def passes (completed : List String) (constraints : ScheduleConstraints) (c : CourseSection) : Bool :=
  (meetsHardConstraints c completed constraints).toOption.getD false

theorem passes_iff : passes completed constraints c = true ↔ MeetsHard completed constraints c := by
  rw [← meetsHardConstraints_iff, passes]
  cases meetsHardConstraints c completed constraints with
  | error e => simp [Except.toOption]
  | ok meets => simp [Except.toOption]

theorem validSections_eq (returns : Returns (validSections completed constraints candidates)) :
    validSections completed constraints candidates =
      .ok (candidates.filter (passes completed constraints)) := by
  induction candidates with
  | nil => rfl
  | cons c cs ih =>
      rw [validSections, returns_bind] at returns
      obtain ⟨meets, here, returns⟩ := returns
      obtain ⟨rest, later, -⟩ := returns_bind.mp returns
      have passed : passes completed constraints c = meets := by rw [passes, here]; rfl
      rw [validSections, here, ih ⟨rest, later⟩, List.filter_cons, passed]
      rfl

end

def good (constraints : ScheduleConstraints) (combo : List CourseSection) : Bool :=
  !hasTimeConflict combo && meetsCreditBounds (.fromCourses combo) constraints

def enumerated (constraints : ScheduleConstraints) (valid : List CourseSection) :
    List (List CourseSection) :=
  (sizes constraints).flatMap fun size => combinations size.toNat valid

def found (candidates : List CourseSection) (completed : List String)
    (constraints : ScheduleConstraints) : List (List CourseSection) :=
  (firsts comboKey [] (enumerated constraints (candidates.filter (passes completed constraints)))).filter
    (good constraints)

section
variable {completed : List String} {constraints : ScheduleConstraints}
  {candidates valid combo : List CourseSection}

theorem considerCombo_eq (k : SolveState) (combo : List CourseSection) :
    considerCombo constraints k combo =
      if comboKey combo ∈ k.seenCombos then k
      else ⟨k.results ++ ([combo].filter (good constraints)).map ScheduleOption.fromCourses,
        comboKey combo :: k.seenCombos⟩ := by
  unfold considerCombo
  dsimp only
  by_cases seen : comboKey combo ∈ k.seenCombos
  · rw [if_pos seen]
    exact if_pos seen
  · rw [if_neg seen]
    apply (if_neg seen).trans
    cases conflict : hasTimeConflict combo <;>
      cases bounds : meetsCreditBounds (.fromCourses combo) constraints <;>
        simp [good, conflict, bounds, comboKey, codes]

theorem foldl_considerCombo (combos : List (List CourseSection)) (k : SolveState) :
    (combos.foldl (considerCombo constraints) k).results =
      k.results ++ ((firsts comboKey k.seenCombos combos).filter (good constraints)).map
        ScheduleOption.fromCourses := by
  induction combos generalizing k with
  | nil => simp [firsts]
  | cons combo combos ih =>
      rw [List.foldl_cons, ih, considerCombo_eq, firsts]
      by_cases seen : comboKey combo ∈ k.seenCombos
      · rw [if_pos seen, if_pos seen]
      · rw [if_neg seen, if_neg seen]
        dsimp only
        rw [List.append_assoc, ← List.map_append, ← List.filter_append, List.singleton_append]

theorem searchSizes_eq (sizes : List Int) (k : SolveState) (nonneg : ∀ size ∈ sizes, 0 ≤ size) :
    searchSizes constraints valid sizes k =
      .ok ((sizes.flatMap fun size => combinations size.toNat valid).foldl
        (considerCombo constraints) k) := by
  induction sizes generalizing k with
  | nil => rfl
  | cons size sizes ih =>
      obtain ⟨here, later⟩ := List.forall_mem_cons.mp nonneg
      rw [searchSizes, if_neg (by omega), ih _ later, List.flatMap_cons, List.foldl_append]

theorem mem_combinations {α : Type} {n : Nat} {xs ys : List α} :
    ys ∈ combinations n xs ↔ ys.Sublist xs ∧ ys.length = n := by
  induction xs generalizing n ys with
  | nil =>
      cases n with
      | zero => simp [combinations, List.sublist_nil]
      | succ n =>
          rw [combinations]
          refine iff_of_false List.not_mem_nil fun both => ?_
          rw [List.sublist_nil.mp both.1] at both
          cases both.2
  | cons x xs ih =>
      cases n with
      | zero =>
          rw [combinations, List.mem_singleton, List.length_eq_zero_iff]
          constructor
          · intro empty
            exact ⟨empty ▸ List.nil_sublist _, empty⟩
          · intro both
            exact both.2
      | succ n =>
          rw [combinations, List.mem_append, List.mem_map, ih]
          constructor
          · rintro (⟨zs, mem, rfl⟩ | ⟨sub, size⟩)
            · obtain ⟨sub, size⟩ := ih.mp mem
              exact ⟨sub.cons_cons x, congrArg Nat.succ size⟩
            · exact ⟨sub.cons x, size⟩
          · intro ⟨sub, size⟩
            rcases List.sublist_cons_iff.mp sub with later | ⟨zs, rfl, sub'⟩
            · exact .inr ⟨later, size⟩
            · exact .inl ⟨zs, ih.mpr ⟨sub', Nat.succ.inj size⟩, rfl⟩

theorem mem_sizes {size : Int} :
    size ∈ sizes constraints ↔ constraints.minCourses ≤ size ∧ size ≤ constraints.maxCourses := by
  rw [sizes, List.mem_map]
  constructor
  · rintro ⟨i, below, rfl⟩
    have bound := List.mem_range.mp below
    omega
  · intro within
    obtain ⟨least, most⟩ := within
    refine ⟨(size - constraints.minCourses).toNat, List.mem_range.mpr ?_, ?_⟩
    · omega
    · omega

theorem solve_eq (solvable : Solvable candidates completed constraints) :
    solve candidates completed constraints =
      .ok (rank ((found candidates completed constraints).map ScheduleOption.fromCourses)) := by
  have filtered : Returns (validSections completed constraints candidates) := by
    rw [validSections_returns_iff]
    intro c mem
    exact (meetsHardConstraints_returns_iff c completed constraints).mpr (solvable.comparable c mem)
  rw [solve, validSections_eq filtered, ok_bind,
    searchSizes_eq _ _ ((sizes_nonneg_iff constraints).mpr solvable.sizes), ok_bind,
    foldl_considerCombo]
  rfl

end

end RealityAI.Proof.Reasoning
