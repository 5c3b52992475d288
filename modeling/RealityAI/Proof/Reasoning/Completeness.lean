import RealityAI.Proof.Reasoning.Soundness
import Mathlib.Data.List.Perm.Subperm

namespace RealityAI.Proof.Reasoning
open Library Python Model.Schemas Model.Reasoning Plan

/-! ## The first combination of each collection of courses -/

section
variable {combo valid : List CourseSection} {wanted : List String}

theorem sublist_erase_code {c : CourseSection} {cs : List CourseSection}
    (chosen : combo.Sublist (c :: cs)) (named : (codes combo).Perm wanted)
    (mem : c.courseCode ∈ wanted) :
    ∃ combo', combo'.Sublist cs ∧ (codes combo').Perm (wanted.erase c.courseCode) := by
  rcases List.sublist_cons_iff.mp chosen with later | ⟨combo', rfl, later⟩
  · -- The combination takes another section of the course: give that one up.
    obtain ⟨c', member, same⟩ := List.mem_map.mp (named.mem_iff.mpr mem)
    obtain ⟨before, after, rfl⟩ := List.append_of_mem member
    have fewer : (before ++ after).Sublist (before ++ c' :: after) :=
      (List.sublist_cons_self c' after).append_left before
    refine ⟨before ++ after, fewer.trans later, ?_⟩
    have middle : (codes (before ++ c' :: after)).Perm (c.courseCode :: codes (before ++ after)) := by
      rw [← same]
      exact List.perm_middle.map _
    exact (List.cons_perm_iff_perm_erase.mp (middle.symm.trans named)).2
  · refine ⟨combo', later, ?_⟩
    exact List.cons_perm_iff_perm_erase.mp named |>.2

theorem find?_combinations (some_combo : ∃ combo, combo.Sublist valid ∧ (codes combo).Perm wanted) :
    (combinations wanted.length valid).find? (fun combo => (codes combo).Perm wanted) =
      some (leading CourseSection.courseCode wanted valid) := by
  induction valid generalizing wanted with
  | nil =>
      obtain ⟨combo, chosen, named⟩ := some_combo
      rw [List.sublist_nil.mp chosen] at named
      rw [List.nil_perm.mp named]
      rfl
  | cons c cs ih =>
      obtain ⟨combo, chosen, named⟩ := some_combo
      cases wanted with
      | nil =>
          rw [leading_nil]
          rfl
      | cons k wanted =>
          rw [List.length_cons, combinations, List.find?_append, List.find?_map, leading]
          by_cases mem : c.courseCode ∈ k :: wanted
          · have size : wanted.length = ((k :: wanted).erase c.courseCode).length := by
              rw [List.length_erase_of_mem mem]
              rfl
            have rest : (fun combo => decide ((codes combo).Perm (k :: wanted))) ∘ (c :: ·) =
                fun combo => decide ((codes combo).Perm ((k :: wanted).erase c.courseCode)) := by
              funext combo
              apply decide_eq_decide.mpr
              exact List.cons_perm_iff_perm_erase.trans (and_iff_right mem)
            rw [if_pos mem, rest, size, ih (sublist_erase_code chosen named mem)]
            rfl
          · -- No combination that takes this section has the wanted courses.
            have none : ((combinations wanted.length cs).find?
                ((fun combo => decide ((codes combo).Perm (k :: wanted))) ∘ (c :: ·))) = none := by
              apply List.find?_eq_none.mpr
              intro combo _ same
              have perm : (c.courseCode :: codes combo).Perm (k :: wanted) := of_decide_eq_true same
              exact mem (perm.mem_iff.mp List.mem_cons_self)
            have later : combo.Sublist cs := by
              rcases List.sublist_cons_iff.mp chosen with later | ⟨combo', rfl, -⟩
              · exact later
              · exact absurd (named.mem_iff.mp List.mem_cons_self) mem
            rw [if_neg mem, none]
            exact ih ⟨combo, later, named⟩

end

/-! ## What is offered -/

section
variable (candidates : List CourseSection) (completed : List String)
  (constraints : ScheduleConstraints)

def Offers (courses : Finset String) : Prop :=
  ∃ options, solve candidates completed constraints = .ok options ∧
    ∃ o ∈ options, (codes o.courses).toFinset = courses

/-- A collection of candidates that a student could take; a course may occur in several sections. -/
structure Acceptable (combo : List CourseSection) : Prop where
  chosen : combo.Subperm candidates
  least : constraints.minCourses ≤ combo.length
  most : combo.length ≤ constraints.maxCourses
  hard : ∀ c ∈ combo, MeetsHard completed constraints c
  apart : (combo.flatMap fun c => c.meetings).Pairwise fun m m' => m.overlaps m' = false
  minCredits : ∀ bound, constraints.minCredits = some bound →
    bound ≤ (combo.map fun c => c.credits).sum
  maxCredits : ∀ bound, constraints.maxCredits = some bound →
    (combo.map fun c => c.credits).sum ≤ bound

def Complete : Prop :=
  ∀ combo, Acceptable candidates completed constraints combo → (codes combo).Nodup →
    Offers candidates completed constraints (codes combo).toFinset

def OrderFree : Prop :=
  ∀ candidates', candidates'.Perm candidates → ∀ courses,
    Offers candidates' completed constraints courses ↔ Offers candidates completed constraints courses

/-- The collection takes those sections of each of its courses that are listed first. -/
def Leading (combo : List CourseSection) : Prop :=
  ∀ code, combo.filter (fun c => c.courseCode = code) <+:
    (candidates.filter (passes completed constraints)).filter fun c => c.courseCode = code

/-- In every order of the candidates, acceptable courses are acceptable in the sections that are
listed first. -/
def FirstsAccepted : Prop :=
  ∀ candidates', candidates'.Perm candidates → ∀ combo,
    Acceptable candidates completed constraints combo →
    ∃ combo', Acceptable candidates completed constraints combo' ∧
      Leading candidates' completed constraints combo' ∧
      (codes combo').toFinset = (codes combo).toFinset

end

section
variable {candidates candidates' : List CourseSection} {completed : List String}
  {constraints : ScheduleConstraints} {combo combo' : List CourseSection} {courses : Finset String}

theorem overlaps_comm (m m' : MeetingTime) : m.overlaps m' = m'.overlaps m := by
  have shared : m.days.any (fun d => d ∈ m'.days) = m'.days.any fun d => d ∈ m.days := by
    rw [Bool.eq_iff_iff, List.any_eq_true, List.any_eq_true]
    simp only [decide_eq_true_eq]
    exact exists_congr fun d => and_comm
  rw [MeetingTime.overlaps, MeetingTime.overlaps, shared,
    Bool.and_comm (decide (m.start < m'.«end»))]

theorem Acceptable.perm (accepted : Acceptable candidates completed constraints combo)
    (same : combo.Perm combo') : Acceptable candidates completed constraints combo' := by
  have credits : (combo'.map fun c => c.credits).sum = (combo.map fun c => c.credits).sum :=
    (same.map _).sum_eq.symm
  refine ⟨same.symm.subperm.trans accepted.chosen, ?_, ?_, ?_, ?_, ?_, ?_⟩
  · exact same.length_eq ▸ accepted.least
  · exact same.length_eq ▸ accepted.most
  · exact fun c mem => accepted.hard c (same.mem_iff.mpr mem)
  · apply (List.Perm.pairwise_iff ?_ (same.flatMap_right _)).mp accepted.apart
    intro m m' apart
    rwa [overlaps_comm]
  · exact credits ▸ accepted.minCredits
  · exact credits ▸ accepted.maxCredits

theorem Acceptable.reorder (accepted : Acceptable candidates completed constraints combo)
    (same : candidates.Perm candidates') : Acceptable candidates' completed constraints combo :=
  ⟨accepted.chosen.trans same.subperm, accepted.least, accepted.most, accepted.hard, accepted.apart,
    accepted.minCredits, accepted.maxCredits⟩

theorem Acceptable.good (accepted : Acceptable candidates completed constraints combo) :
    good constraints combo = true :=
  good_iff.mpr ⟨accepted.apart, accepted.minCredits, accepted.maxCredits⟩

theorem Acceptable.sublist (accepted : Acceptable candidates completed constraints combo) :
    ∃ combo' : List CourseSection, combo'.Perm combo ∧
      combo'.Sublist (candidates.filter (passes completed constraints)) := by
  obtain ⟨combo', same, chosen⟩ := accepted.chosen
  refine ⟨combo', same, ?_⟩
  have all : combo'.filter (passes completed constraints) = combo' := by
    apply List.filter_eq_self.mpr
    intro c mem
    exact passes_iff.mpr (accepted.hard c (same.mem_iff.mp mem))
  exact all ▸ chosen.filter _

theorem acceptable_of_found (solvable : Solvable candidates completed constraints)
    (mem : combo ∈ found candidates completed constraints) :
    Acceptable candidates completed constraints combo := by
  obtain ⟨chosen, least, most, fits⟩ := mem_found solvable mem
  obtain ⟨apart, minCredits, maxCredits⟩ := good_iff.mp fits
  refine ⟨(chosen.trans List.filter_sublist).subperm, least, most, ?_, apart, minCredits, maxCredits⟩
  intro c member
  exact passes_iff.mp (List.mem_filter.mp (chosen.subset member)).2

theorem find?_enumerated (valid : List CourseSection)
    (nonneg : ∀ size ∈ sizes constraints, 0 ≤ size) :
    (enumerated constraints valid).find? (fun d => comboKey d = comboKey combo) =
      if (combo.length : Int) ∈ sizes constraints then
        (combinations (codes combo).length valid).find? fun d => (codes d).Perm (codes combo)
      else none := by
  have length : ((combo.length : Int)).toNat = (codes combo).length := by simp [codes]
  unfold enumerated
  rw [find?_flatMap_only (n := (combo.length : Int))]
  · simp only [comboKey_eq_iff, length]
  · intro size mem other
    apply List.find?_eq_none.mpr
    intro d made same
    have perm := comboKey_eq_iff.mp (of_decide_eq_true same)
    have sized := (mem_combinations.mp made).2
    have lengths := perm.length_eq
    have above := nonneg size mem
    simp only [codes, List.length_map] at lengths
    omega

theorem solvable_perm (same : candidates.Perm candidates') :
    Solvable candidates completed constraints ↔ Solvable candidates' completed constraints := by
  constructor
  · intro solvable
    exact ⟨fun c mem => solvable.comparable c (same.mem_iff.mpr mem), solvable.sizes⟩
  · intro solvable
    exact ⟨fun c mem => solvable.comparable c (same.mem_iff.mp mem), solvable.sizes⟩

theorem leading_of_found (solvable : Solvable candidates completed constraints)
    (mem : combo ∈ found candidates completed constraints) :
    Leading candidates completed constraints combo := by
  obtain ⟨chosen, least, most, -⟩ := mem_found solvable mem
  have nonneg := (sizes_nonneg_iff constraints).mpr solvable.sizes
  have first := (mem_firsts.mp (List.mem_filter.mp mem).1).2
  rw [find?_enumerated _ nonneg, if_pos (mem_sizes.mpr ⟨least, most⟩),
    find?_combinations ⟨combo, chosen, List.Perm.refl _⟩] at first
  intro code
  rw [← Option.some.inj first]
  exact leading_first _ _ code

theorem find?_perm (valid : List CourseSection) (same : combo.Perm combo') :
    ((combinations (codes combo).length valid).find? fun d => (codes d).Perm (codes combo)) =
      (combinations (codes combo').length valid).find? fun d => (codes d).Perm (codes combo') := by
  have named : (codes combo).Perm (codes combo') := same.map _
  have alike : (fun d => decide ((codes d).Perm (codes combo))) =
      fun d => decide ((codes d).Perm (codes combo')) := by
    funext d
    apply decide_eq_decide.mpr
    exact ⟨fun perm => perm.trans named, fun perm => perm.trans named.symm⟩
  rw [alike, named.length_eq]

theorem found_of_leading (solvable : Solvable candidates completed constraints)
    (accepted : Acceptable candidates completed constraints combo)
    (leads : Leading candidates completed constraints combo) :
    ∃ combo' ∈ found candidates completed constraints, combo'.Perm combo := by
  obtain ⟨d, same, chosen⟩ := accepted.sublist
  have perm := perm_leading leads
  have accepted' := accepted.perm perm
  have nonneg := (sizes_nonneg_iff constraints).mpr solvable.sizes
  refine ⟨_, List.mem_filter.mpr ⟨?_, accepted'.good⟩, perm.symm⟩
  rw [mem_firsts, find?_enumerated _ nonneg,
    if_pos (mem_sizes.mpr ⟨accepted'.least, accepted'.most⟩), ← find?_perm _ perm]
  exact ⟨List.not_mem_nil, find?_combinations ⟨d, chosen, same.map _⟩⟩

theorem offers_iff : Offers candidates completed constraints courses ↔
    Solvable candidates completed constraints ∧
      ∃ combo, Acceptable candidates completed constraints combo ∧
        Leading candidates completed constraints combo ∧ (codes combo).toFinset = courses := by
  constructor
  · intro ⟨options, ok, o, mem, named⟩
    have solvable := (solve_returns_iff candidates completed constraints).mp ⟨options, ok⟩
    have same := (solve_eq solvable).symm.trans ok
    cases same
    obtain ⟨combo, member, made⟩ := List.mem_map.mp ((rank_perm _).mem_iff.mp mem)
    refine ⟨solvable, combo, acceptable_of_found solvable member, leading_of_found solvable member, ?_⟩
    rw [← made] at named
    exact named
  · intro ⟨solvable, combo, accepted, leads, named⟩
    obtain ⟨combo', member, same⟩ := found_of_leading solvable accepted leads
    refine ⟨_, solve_eq solvable, ranked combo', ?_, ?_⟩
    · exact (rank_perm _).mem_iff.mpr (List.mem_map_of_mem member)
    · rw [← named]
      exact List.toFinset_eq_of_perm _ _ (same.map _)

theorem exists_leading (accepted : Acceptable candidates completed constraints combo) :
    ∃ candidates' : List CourseSection, candidates'.Perm candidates ∧
      Leading candidates' completed constraints combo := by
  obtain ⟨combo', same, chosen⟩ := accepted.chosen
  obtain ⟨rest, split⟩ := chosen.exists_perm_append
  have valid : combo.filter (passes completed constraints) = combo := by
    apply List.filter_eq_self.mpr
    intro c mem
    exact passes_iff.mpr (accepted.hard c mem)
  refine ⟨combo ++ rest, (same.symm.append_right rest).trans split.symm, fun code => ?_⟩
  rw [List.filter_append, valid, List.filter_append]
  exact List.prefix_append _ _

/-! ## Completeness -/

theorem firstsAccepted_of_complete (solvable : Solvable candidates completed constraints)
    (orderFree : OrderFree candidates completed constraints) :
    FirstsAccepted candidates completed constraints := by
  intro candidates' same combo accepted
  -- The collection is offered in an order that lists it first, so in every order.
  obtain ⟨candidates'', same'', leads⟩ := exists_leading accepted
  have offered : Offers candidates'' completed constraints (codes combo).toFinset := by
    rw [offers_iff]
    exact ⟨(solvable_perm same'').mpr solvable, combo, accepted.reorder same''.symm, leads, rfl⟩
  have offered' := (orderFree candidates' same _).mpr ((orderFree candidates'' same'' _).mp offered)
  obtain ⟨-, combo', accepted', leads', named⟩ := offers_iff.mp offered'
  exact ⟨combo', accepted'.reorder same, leads', named⟩

theorem offers_of_firstsAccepted (solvable : Solvable candidates completed constraints)
    (firsts : FirstsAccepted candidates completed constraints) (same : candidates'.Perm candidates)
    (accepted : Acceptable candidates completed constraints combo) :
    Offers candidates' completed constraints (codes combo).toFinset := by
  obtain ⟨combo', accepted', leads, named⟩ := firsts candidates' same combo accepted
  rw [offers_iff]
  exact ⟨(solvable_perm same).mpr solvable, combo', accepted'.reorder same.symm, leads, named⟩

theorem orderFree_of_firstsAccepted (solvable : Solvable candidates completed constraints)
    (firsts : FirstsAccepted candidates completed constraints) :
    OrderFree candidates completed constraints := by
  intro candidates' same courses
  constructor
  · intro offered
    obtain ⟨-, combo, accepted, -, rfl⟩ := offers_iff.mp offered
    exact offers_of_firstsAccepted solvable firsts (List.Perm.refl _) (accepted.reorder same)
  · intro offered
    obtain ⟨-, combo, accepted, -, rfl⟩ := offers_iff.mp offered
    exact offers_of_firstsAccepted solvable firsts same accepted

/-- A catalog with one section of each course loses nothing. -/
theorem firstsAccepted_of_nodup (distinct : (codes candidates).Nodup) :
    FirstsAccepted candidates completed constraints := by
  intro candidates' same combo accepted
  refine ⟨combo, accepted, fun code => ?_, rfl⟩
  obtain ⟨combo', same', chosen⟩ := accepted.sublist
  have among : (combo'.filter fun c => c.courseCode = code).Sublist
      ((candidates.filter (passes completed constraints)).filter fun c => c.courseCode = code) :=
    chosen.filter _
  have listed := (same.filter (passes completed constraints)).filter fun c => c.courseCode = code
  have count : (candidates.filter fun c => c.courseCode = code).length ≤ 1 := by
    rw [← count_keys]
    exact List.nodup_iff_count_le_one.mp distinct code
  have single : ((candidates'.filter (passes completed constraints)).filter
      fun c => c.courseCode = code).length ≤ 1 := by
    rw [listed.length_eq]
    exact (List.filter_sublist.filter _).length_le.trans count
  have sub := (same'.symm.filter _).subperm.trans (among.subperm.trans listed.symm.subperm)
  cases taken : combo.filter fun c => c.courseCode = code with
  | nil => exact List.nil_prefix
  | cons c cs =>
      rw [taken] at sub
      have perm := sub.perm_of_length_le (single.trans (Nat.le_add_left 1 _))
      have none : cs = [] := by
        have length := perm.length_eq
        rw [List.length_cons] at length
        exact List.length_eq_zero_iff.mp (by omega)
      rw [none] at perm
      rw [none, List.singleton_perm.mp perm]

end

/-- The solver offers every collection of courses that fits, whatever the order of the candidates,
if and only if it loses nothing by looking at the first sections only. -/
theorem solver_complete_iff (candidates : List CourseSection) (completed : List String)
    (constraints : ScheduleConstraints) :
    (Complete candidates completed constraints ∧ OrderFree candidates completed constraints) ↔
      (Solvable candidates completed constraints ∧ FirstsAccepted candidates completed constraints) ∨
      (¬ Solvable candidates completed constraints ∧
        ∀ combo, Acceptable candidates completed constraints combo → ¬ (codes combo).Nodup) := by
  by_cases solvable : Solvable candidates completed constraints
  · constructor
    · intro ⟨_, orderFree⟩
      exact .inl ⟨solvable, firstsAccepted_of_complete solvable orderFree⟩
    · rintro (⟨-, firsts⟩ | ⟨unsolvable, -⟩)
      · refine ⟨fun combo accepted _ => ?_, orderFree_of_firstsAccepted solvable firsts⟩
        exact offers_of_firstsAccepted solvable firsts (List.Perm.refl _) accepted
      · exact absurd solvable unsolvable
  · constructor
    · intro ⟨complete, _⟩
      refine .inr ⟨solvable, fun combo accepted distinct => ?_⟩
      exact solvable (offers_iff.mp (complete combo accepted distinct)).1
    · rintro (⟨solvable', -⟩ | ⟨-, none⟩)
      · exact absurd solvable' solvable
      · refine ⟨fun combo accepted distinct => absurd distinct (none combo accepted), ?_⟩
        intro candidates' same courses
        rw [offers_iff, offers_iff, solvable_perm same]
        exact iff_of_false (fun offered => solvable offered.1) fun offered => solvable offered.1

def twoCourses : ScheduleConstraints := { minCourses := 2, maxCourses := 2 }

theorem lateAlgebra_mechanics :
    Acceptable [algebra, lateAlgebra, mechanics] [] twoCourses [lateAlgebra, mechanics] := by
  have free : ∀ c ∈ [lateAlgebra, mechanics], c.prereqs = [] := by decide
  refine ⟨(List.sublist_cons_self _ _).subperm, ?_, ?_, ?_, ?_, ?_, ?_⟩
  · exact Int.le_refl 2
  · exact Int.le_refl 2
  · intro c mem
    refine ⟨fun _ _ _ _ => List.not_mem_nil, fun p required => ?_, fun lo hi same => ?_⟩
    · rw [free c mem] at required
      exact required
    · cases same
  · decide
  · intro bound same
    cases same
  · intro bound same
    cases same

theorem second_section_hidden :
    ¬ Complete [algebra, lateAlgebra, mechanics] [] twoCourses ∧
      ¬ OrderFree [algebra, lateAlgebra, mechanics] [] twoCourses := by
  have nothing : solve [algebra, lateAlgebra, mechanics] [] twoCourses = .ok [] := by
    decide +kernel
  have hidden (courses : Finset String) :
      ¬ Offers [algebra, lateAlgebra, mechanics] [] twoCourses courses := by
    rintro ⟨options, ok, o, mem, -⟩
    rw [nothing, Except.ok.injEq] at ok
    rw [← ok] at mem
    exact List.not_mem_nil mem
  constructor
  · intro complete
    have distinct : (codes [lateAlgebra, mechanics]).Nodup := by decide
    exact hidden _ (complete _ lateAlgebra_mechanics distinct)
  · intro orderFree
    have other : solve [lateAlgebra, algebra, mechanics] [] twoCourses =
        .ok [ranked [lateAlgebra, mechanics]] := by
      decide +kernel
    have offered : Offers [lateAlgebra, algebra, mechanics] [] twoCourses
        (codes [lateAlgebra, mechanics]).toFinset :=
      ⟨_, other, _, List.mem_cons_self, rfl⟩
    exact hidden _ ((orderFree _ (List.Perm.swap _ _ _) _).mp offered)

end RealityAI.Proof.Reasoning
