import RealityAI.Model.Courses

namespace RealityAI.Proof.Courses
open Library Model.CoreService Model.Courses

/-- The message comes back from the conversions, and from the store after `UpdateCourse`. -/
def Survives (courses : CourseTable) (c : Course) : Prop :=
  toProto (fromProto c) = c ∧ ∃ courses', grpcUpdateCourse courses c = .ok (c, courses') ∧
    grpcGetCourse courses' c.courseId = .ok c

def Separable (prerequisites : List String) : Prop :=
  (∀ p ∈ prerequisites, ',' ∉ p.toList) ∧ prerequisites.getLast? ≠ some ""

theorem commas_toList (prerequisites : List String) :
    (",".intercalate prerequisites).toList = [','].intercalate (prerequisites.map String.toList) := by
  rw [String.toList_intercalate]
  rfl

theorem splitCommas_iff {prerequisites : List String}
    (nonempty : ",".intercalate prerequisites ≠ "") :
    splitCommas (",".intercalate prerequisites) = prerequisites ↔ Separable prerequisites := by
  have text : [','].intercalate (prerequisites.map String.toList) ≠ [] := by
    intro empty
    rw [← commas_toList, String.toList_eq_nil_iff] at empty
    exact nonempty empty
  have characters : splitCommas (",".intercalate prerequisites) = prerequisites ↔
      splitFields ',' ([','].intercalate (prerequisites.map String.toList)) =
        prerequisites.map String.toList := by
    rw [splitCommas, commas_toList]
    constructor
    · intro same
      conv_rhs => rw [← same]
      simp [Function.comp_def]
    · intro same
      rw [same]
      simp [Function.comp_def]
  rw [characters, splitFields_intercalate_iff text, Separable]
  have last : (prerequisites.map String.toList).getLast? = some [] ↔
      prerequisites.getLast? = some "" := by
    rw [List.getLast?_map, Option.map_eq_some_iff]
    simp
  rw [ne_eq, last, List.forall_mem_map]

theorem join_empty {prerequisites : List String} (some_field : prerequisites ≠ [])
    (empty : ",".intercalate prerequisites = "") : prerequisites = [""] := by
  cases prerequisites with
  | nil => exact absurd rfl some_field
  | cons p later =>
      cases later with
      | nil => rw [String.intercalate_singleton.symm.trans empty]
      | cons q later =>
          rw [String.intercalate_cons_cons] at empty
          simp at empty

theorem prerequisites_iff (c : Course) :
    (toProto (fromProto c)).prerequisites = c.prerequisites ↔ Separable c.prerequisites := by
  unfold toProto fromProto
  by_cases none : c.prerequisites = []
  · simp [none, Separable]
  · simp only [if_neg none]
    split
    · rename_i empty
      rw [join_empty none empty]
      simp [Separable]
    · rename_i nonempty
      exact splitCommas_iff nonempty

theorem toProto_fromProto_iff (c : Course) :
    toProto (fromProto c) = c ↔ (toProto (fromProto c)).prerequisites = c.prerequisites := by
  constructor
  · intro same
    rw [same]
  · intro same
    obtain ⟨courseId, name, description, instructor, schedule, location, credits, semester,
      prerequisites⟩ := c
    simpa [toProto, fromProto] using same

/-- A course message survives exactly if its prerequisites can be told apart in the column that
joins them. -/
theorem course_survives_iff (courses : CourseTable) (c : Course) (identified : c.courseId ≠ "") :
    Survives courses c ↔ Separable c.prerequisites := by
  rw [← prerequisites_iff, ← toProto_fromProto_iff]
  constructor
  · intro survives
    exact survives.1
  · intro same
    refine ⟨same, Function.update courses c.courseId (some (fromProto c)), ?_, ?_⟩
    · rw [grpcUpdateCourse, if_neg identified]
      dsimp only
      rw [same]
      rfl
    · rw [grpcGetCourse, Function.update_self]
      exact congrArg Except.ok same

theorem prerequisites_survive : Survives (fun _ => none)
    { courseId := "CS201", prerequisites := ["CS101", "MATH200"] } := by
  apply (course_survives_iff _ _ (by decide)).mpr
  constructor
  · decide
  · decide

/-! A list that ends in an empty string. -/

theorem last_prerequisite_lost : ¬ ∀ courses c, c.courseId ≠ "" → Survives courses c := by
  intro all
  obtain ⟨same, -⟩ := all (fun _ => none) { courseId := "CS201", prerequisites := ["CS101", ""] }
    (by decide)
  revert same
  decide +kernel

end RealityAI.Proof.Courses
