import RealityAI.Model.CoreApi
import RealityAI.Proof.Courses
import RealityAI.Proof.StudentService

namespace RealityAI.Proof.CoreApi
open Library Model.CoreService Model.Courses Model.CoreApi StudentService

/-! ## What the callers know -/

structure Registry where
  courses : String → Option Course
  assignments : String → Option AssignmentEntity

def registry (t : Tables) : Registry where
  courses courseId := (getCourse t courseId).map toProto
  assignments := getAssignment t

/-- An answer to a write says what has been stored. -/
def acknowledge (r : Registry) : Exchange → Registry
  | (.updateCourse _, .course (.ok c)) =>
      { r with courses := Function.update r.courses c.courseId (some c) }
  | (.createAssignment _, .assignment (.ok a)) =>
      { r with assignments := Function.update r.assignments a.assignmentId (some a) }
  | _ => r

def Lists {α : Type} (id : α → String) (stored : String → Option α) (asked : α → Prop)
    (listed : List α) : Prop :=
  (listed.map id).Nodup ∧ ∀ a, a ∈ listed ↔ stored (id a) = some a ∧ asked a

/-- A read returns what is registered, and a write that succeeds acknowledges its own message. -/
def Honours (r : Registry) : Exchange → Prop
  | (.getCourse courseId, answer) => answer = .course (match r.courses courseId with
      | some c => .ok c
      | none => .error ⟨.notFound, some ("Course not found: " ++ courseId)⟩)
  | (.listCourses semester, answer) => ∃ listed, answer = .courses listed ∧
      Lists Course.courseId r.courses (fun c => semester = "" ∨ c.semester = semester) listed
  | (.updateCourse c, answer) => ∃ result, answer = .course result ∧
      ∀ stored, result = .ok stored → stored = toProto (fromProto c) ∧ c.courseId ≠ ""
  | (.getAssignment assignmentId, answer) => answer = .assignment (match r.assignments assignmentId with
      | some a => .ok a
      | none => .error ⟨.notFound, some ("Assignment not found: " ++ assignmentId)⟩)
  | (.listAssignments courseId, answer) => ∃ listed, answer = .assignments listed ∧
      Lists AssignmentEntity.assignmentId r.assignments (fun a => a.courseId = courseId) listed
  | (.createAssignment a, answer) => ∃ result, answer = .assignment result ∧
      ∀ stored, result = .ok stored → stored = a ∧ a.assignmentId ≠ "" ∧ a.courseId ≠ ""
  | (.student _, answer) => ∃ result, answer = .enrollment result

structure Unique (t : Tables) : Prop where
  courses : (t.courses.map CourseEntity.courseId).Nodup
  assignments : (t.db.assignments.map AssignmentEntity.assignmentId).Nodup

section
variable {schema : Schema} {t : Tables}

/-! ## Reads -/

theorem listCourses_lists (unique : Unique t) (semester : String) :
    Lists Course.courseId (registry t).courses (fun c => semester = "" ∨ c.semester = semester)
      (apiListCourses t semester) := by
  have part : (listCourses t semester).Sublist t.courses := by
    unfold listCourses
    split
    · exact List.filter_sublist
    · exact List.Sublist.refl _
  have asked (entity : CourseEntity) : entity ∈ listCourses t semester ↔
      entity ∈ t.courses ∧ (semester = "" ∨ (toProto entity).semester = semester) := by
    unfold listCourses
    by_cases all : semester = ""
    · simp [all]
    · rw [if_pos all, List.mem_filter, decide_eq_true_eq]
      apply and_congr_right'
      cases here : entity.semester with
      | none => simp [toProto, here, all, Ne.symm all]
      | some own => simp [toProto, here, all]
  constructor
  · rw [apiListCourses, List.map_map]
    exact unique.courses.sublist (part.map _)
  · intro c
    rw [apiListCourses, List.mem_map]
    constructor
    · rintro ⟨entity, mem, same⟩
      obtain ⟨stored, fits⟩ := (asked entity).mp mem
      subst same
      have found : getCourse t entity.courseId = some entity :=
        (rowOf_eq_iff unique.courses).mpr ⟨stored, rfl⟩
      exact ⟨congrArg (Option.map toProto) found, fits⟩
    · rintro ⟨registered, fits⟩
      obtain ⟨entity, found, same⟩ := Option.map_eq_some_iff.mp registered
      have stored := (rowOf_some found).1
      subst same
      exact ⟨entity, (asked entity).mpr ⟨stored, fits⟩, rfl⟩

theorem listAssignments_lists (unique : Unique t) (courseId : String) :
    Lists AssignmentEntity.assignmentId (registry t).assignments (fun a => a.courseId = courseId)
      (listAssignments t courseId) := by
  constructor
  · exact unique.assignments.sublist (List.filter_sublist.map _)
  · intro a
    have registered : (registry t).assignments a.assignmentId = some a ↔ a ∈ t.db.assignments := by
      show rowOf _ _ _ = some a ↔ _
      rw [rowOf_eq_iff unique.assignments, and_iff_left rfl]
    rw [registered, listAssignments, List.mem_filter, decide_eq_true_eq]

/-! ## Writes -/

theorem getCourse_updateCourse (entity : CourseEntity) : getCourse (updateCourse t entity).2 =
    Function.update (getCourse t) entity.courseId (some entity) := by
  funext courseId
  show rowOf _ (saveRow _ t.courses entity) courseId = _
  rw [rowOf_saveRow, Function.update_apply]
  rfl

theorem updateCourse_registry (entity : CourseEntity) :
    registry (updateCourse t entity).2 = { registry t with
      courses := Function.update (registry t).courses entity.courseId (some (toProto entity)) } := by
  unfold registry
  rw [getCourse_updateCourse]
  congr 1
  funext courseId
  simp only [Function.update_apply]
  split <;> rfl

/-- The table of the course service is the list of its rows. -/
theorem apiUpdateCourse_grpc {c : Course} (takes : schema.takesCourse (fromProto c) = true) :
    grpcUpdateCourse (getCourse t) c = (apiUpdateCourse schema t c).1.map fun stored =>
      (stored, getCourse (apiUpdateCourse schema t c).2) := by
  unfold grpcUpdateCourse apiUpdateCourse
  by_cases missing : c.courseId = ""
  · rw [if_pos missing, if_pos missing]
    rfl
  · rw [if_neg missing, if_neg missing]
    dsimp only
    rw [if_pos takes, ← getCourse_updateCourse]
    rfl

theorem createAssignment_registry {assignment row : AssignmentEntity} {db : Database}
    (created : createAssignment schema.toColumns t.db assignment = .ok (row, db)) :
    row = assignment ∧ db.assignments =
        saveRow AssignmentEntity.assignmentId t.db.assignments assignment ∧
      registry { t with db } = { registry t with
        assignments := Function.update (registry t).assignments assignment.assignmentId
          (some assignment) } := by
  unfold createAssignment save at created
  split at created
  case isFalse => cases created
  cases created
  refine ⟨rfl, rfl, ?_⟩
  show Registry.mk _ (getAssignment _) = _
  congr 1
  funext assignmentId
  show rowOf _ (saveRow AssignmentEntity.assignmentId t.db.assignments assignment) assignmentId = _
  rw [rowOf_saveRow, Function.update_apply]
  rfl

variable (schema t) in
theorem student_same (call : StudentCall) : (apiStudent schema t call).2.courses = t.courses ∧
    (apiStudent schema t call).2.db.assignments = t.db.assignments := by
  have settles {α β : Type} {reply : α → β} {answer : Except Status (α × Database)}
      (kept : ∀ row db, answer = .ok (row, db) → db.assignments = t.db.assignments) :
      (settled t reply answer).2.courses = t.courses ∧
        (settled t reply answer).2.db.assignments = t.db.assignments := by
    cases answer with
    | error status => exact ⟨rfl, rfl⟩
    | ok stored => exact ⟨rfl, kept _ _ rfl⟩
  cases call with
  | enrollStudent studentId courseId semester =>
      apply settles
      intro row db done
      obtain ⟨-, enrollments, -, made⟩ := enrollStudent_ok_iff.mp (mapError_ok.mp done)
      cases made
      rfl
  | dropEnrollment studentId courseId semester =>
      apply settles
      intro row db done
      unfold grpcDropEnrollment at done
      cases dropped : dropEnrollment t.db studentId courseId semester with
      | mk found db' =>
          rw [dropped] at done
          cases found with
          | false => cases done
          | true =>
              cases done
              obtain ⟨enrollment, -, rfl⟩ := dropEnrollment_true_iff.mp dropped
              rfl
  | updateGrade studentId courseId semester grade =>
      apply settles
      intro row db done
      obtain ⟨enrollment, -, -, made⟩ := updateGrade_ok_iff.mp (mapError_ok.mp done)
      cases made
      rfl

/-! ## One call -/

structure Answered (t t' : Tables) (exchange : Exchange) : Prop where
  unique : Unique t'
  registered : registry t' = acknowledge (registry t) exchange
  honours : Honours (registry t) exchange

theorem answered_update (unique : Unique t) (c : Course) :
    Answered t (apiUpdateCourse schema t c).2
      (.updateCourse c, .course (apiUpdateCourse schema t c).1) := by
  unfold apiUpdateCourse
  by_cases missing : c.courseId = ""
  · rw [if_pos missing]
    exact ⟨unique, rfl, _, rfl, fun stored done => by cases done⟩
  rw [if_neg missing]
  dsimp only
  split
  · refine ⟨⟨nodup_saveRow unique.courses, unique.assignments⟩, ?_, _, rfl, ?_⟩
    · exact updateCourse_registry (fromProto c)
    · intro stored done
      cases done
      exact ⟨rfl, missing⟩
  · exact ⟨unique, rfl, _, rfl, fun stored done => by cases done⟩

theorem answered_create (unique : Unique t) (a : AssignmentEntity) :
    Answered t (settled t id (grpcCreateAssignment schema.toColumns t.db a)).2
      (.createAssignment a,
        .assignment (settled t id (grpcCreateAssignment schema.toColumns t.db a)).1) := by
  unfold grpcCreateAssignment
  by_cases missing : a.assignmentId = "" ∨ a.courseId = ""
  · rw [if_pos missing]
    exact ⟨unique, rfl, _, rfl, fun stored done => by cases done⟩
  rw [if_neg missing]
  cases created : createAssignment schema.toColumns t.db a with
  | error e => exact ⟨unique, rfl, _, rfl, fun stored done => by cases done⟩
  | ok made =>
      obtain ⟨row, db⟩ := made
      obtain ⟨rfl, assignments, registered⟩ := createAssignment_registry created
      refine ⟨⟨unique.courses, ?_⟩, registered, _, rfl, ?_⟩
      · show (db.assignments.map AssignmentEntity.assignmentId).Nodup
        rw [assignments]
        exact nodup_saveRow unique.assignments
      · intro stored done
        cases done
        exact ⟨rfl, not_or.mp missing⟩

theorem answered_student (unique : Unique t) (call : StudentCall) :
    Answered t (apiStudent schema t call).2
      (.student call, .enrollment (apiStudent schema t call).1) := by
  obtain ⟨courses, assignments⟩ := student_same schema t call
  refine ⟨⟨courses ▸ unique.courses, assignments ▸ unique.assignments⟩, ?_, _, rfl⟩
  show registry _ = registry t
  unfold registry getCourse getAssignment
  rw [courses, assignments]

variable (schema) in
theorem step_answered (unique : Unique t) (call : ApiCall) :
    Answered t (answerCall schema t call).2 (call, (answerCall schema t call).1) := by
  cases call with
  | getCourse courseId =>
      refine ⟨unique, rfl, ?_⟩
      show ApiAnswer.course (apiGetCourse t courseId) = _
      unfold apiGetCourse grpcGetCourse registry
      dsimp only
      cases getCourse t courseId <;> rfl
  | listCourses semester => exact ⟨unique, rfl, _, rfl, listCourses_lists unique semester⟩
  | updateCourse c => exact answered_update unique c
  | getAssignment assignmentId =>
      refine ⟨unique, rfl, ?_⟩
      show ApiAnswer.assignment (apiGetAssignment t assignmentId) =
        .assignment (match getAssignment t assignmentId with
          | some a => .ok a
          | none => .error ⟨.notFound, some ("Assignment not found: " ++ assignmentId)⟩)
      unfold apiGetAssignment
      cases getAssignment t assignmentId <;> rfl
  | listAssignments courseId => exact ⟨unique, rfl, _, rfl, listAssignments_lists unique courseId⟩
  | createAssignment a => exact answered_create unique a
  | student call => exact answered_student unique call

end

/-! ## Every run -/

/-- Every answer of the service, in whatever order it is called, is that of a register of messages in
which each acknowledged write takes the place of the one before. -/
theorem reads_acknowledged (schema : Schema) (t : Tables) (unique : Unique t) (calls : List ApiCall) :
    Machine.Each (fun log exchange => Honours (log.foldl acknowledge (registry t)) exchange) []
      ((coreApi schema).run t calls).2 := by
  have step (log : List Exchange) (s : Tables) (call : ApiCall) (_ : True)
      (inv : Unique s ∧ registry s = log.foldl acknowledge (registry t)) :
      Unique ((coreApi schema).step s call).1 ∧ registry ((coreApi schema).step s call).1 =
        (log ++ ((coreApi schema).step s call).2).foldl acknowledge (registry t) := by
    have answered := step_answered schema inv.1 call
    refine ⟨answered.unique, answered.registered.trans ?_⟩
    rw [List.foldl_append, ← inv.2]
    rfl
  have emits (log : List Exchange) (s : Tables) (call : ApiCall) (_ : True)
      (inv : Unique s ∧ registry s = log.foldl acknowledge (registry t)) :
      Machine.Each (fun log exchange => Honours (log.foldl acknowledge (registry t)) exchange) log
        ((coreApi schema).step s call).2 := by
    refine ⟨?_, trivial⟩
    show Honours (log.foldl acknowledge (registry t)) _
    rw [← inv.2]
    exact (step_answered schema inv.1 call).honours
  have start : Unique t ∧ registry t = ([] : List Exchange).foldl acknowledge (registry t) :=
    ⟨unique, rfl⟩
  exact Machine.run_emits step emits (Machine.along_true _ _ calls) start

def emptyTables : Tables where
  db := ⟨[], ⟨[], List.nodup_nil⟩, []⟩
  courses := []

theorem course_read_back : Machine.Each
    (fun log exchange => Honours (log.foldl acknowledge (registry emptyTables)) exchange) []
    ((coreApi .sql).run emptyTables
      [.updateCourse { courseId := "CS201", prerequisites := ["CS101", ""] }, .listCourses ""]).2 :=
  reads_acknowledged .sql emptyTables ⟨List.nodup_nil, List.nodup_nil⟩ _

/-! ## Writing back what was read -/

theorem separable_read (entity : CourseEntity) : Courses.Separable (toProto entity).prerequisites := by
  unfold toProto
  cases entity.prerequisites with
  | none => simp [Courses.Separable]
  | some text =>
      dsimp only
      by_cases empty : text = ""
      · simp [empty, Courses.Separable]
      rw [if_neg empty]
      have characters : text.toList ≠ [] := by
        intro none
        exact empty (String.toList_eq_nil_iff.mp none)
      constructor
      · intro p mem
        obtain ⟨field, split, same⟩ := List.mem_map.mp mem
        rw [← same, String.toList_ofList]
        exact notMem_of_mem_splitFields split
      · intro last
        have ends : (splitFields ',' text.toList).rdropWhile List.isEmpty =
            splitFields ',' text.toList := splitFields_ends characters
        rw [List.rdropWhile_eq_self_iff] at ends
        rw [splitCommas, List.getLast?_map, Option.map_eq_some_iff] at last
        obtain ⟨field, ending, same⟩ := last
        have some_field : splitFields ',' text.toList ≠ [] := by
          intro none
          rw [none] at ending
          cases ending
        rw [List.getLast?_eq_some_getLast some_field, Option.some.injEq] at ending
        have empty_field : field = [] := by
          rw [← String.toList_ofList (l := field), same]
          rfl
        have full := ends some_field
        rw [ending, empty_field] at full
        exact full rfl

theorem toProto_read_back (entity : CourseEntity) :
    toProto (fromProto (toProto entity)) = toProto entity :=
  (Courses.toProto_fromProto_iff _).mpr ((Courses.prerequisites_iff _).mpr (separable_read entity))

theorem read_back_registry (schema : Schema) {t : Tables} {courseId : String} {c : Course}
    (read : apiGetCourse t courseId = .ok c) :
    registry (apiUpdateCourse schema t c).2 = registry t := by
  obtain ⟨entity, found, same⟩ : ∃ entity, getCourse t courseId = some entity ∧ toProto entity = c := by
    unfold apiGetCourse grpcGetCourse at read
    cases found : getCourse t courseId with
    | none =>
        rw [found] at read
        cases read
    | some entity =>
        rw [found] at read
        cases read
        exact ⟨entity, rfl, rfl⟩
  unfold apiUpdateCourse
  split
  · rfl
  dsimp only
  split
  · show registry (updateCourse t (fromProto c)).2 = _
    have stored : (registry t).courses (fromProto c).courseId = some c := by
      have named : courseId = (fromProto c).courseId := by
        rw [← same]
        exact (rowOf_some found).2.symm
      rw [← named, ← same]
      exact congrArg (Option.map toProto) found
    rw [updateCourse_registry, ← same, toProto_read_back, same, ← stored, Function.update_eq_self]
  · rfl

/-- The callers cannot tell the tables apart, but for the order in which courses are listed. -/
structure SameReads (t t' : Tables) : Prop where
  db : t'.db = t.db
  course : ∀ courseId, apiGetCourse t' courseId = apiGetCourse t courseId
  courses : ∀ semester, (apiListCourses t' semester).Perm (apiListCourses t semester)

theorem sameReads_of_registry {t t' : Tables} (unique : Unique t) (unique' : Unique t')
    (db : t'.db = t.db) (same : registry t' = registry t) : SameReads t t' where
  db := db
  course courseId := by
    have stored : (getCourse t' courseId).map toProto = (getCourse t courseId).map toProto :=
      congrFun (congrArg Registry.courses same) courseId
    unfold apiGetCourse grpcGetCourse
    cases found : getCourse t courseId with
    | none =>
        rw [found] at stored
        rw [Option.map_eq_none_iff.mp stored]
    | some entity =>
        rw [found] at stored
        obtain ⟨entity', found', proto⟩ := Option.map_eq_some_iff.mp stored
        rw [found']
        exact congrArg Except.ok proto
  courses semester := by
    obtain ⟨distinct, listed⟩ := listCourses_lists unique semester
    obtain ⟨distinct', listed'⟩ := listCourses_lists unique' semester
    apply (List.perm_ext_iff_of_nodup (List.Nodup.of_map _ distinct')
      (List.Nodup.of_map _ distinct)).mpr
    intro c
    rw [listed, listed', same]

/-- A course that is read can be written back, and no caller reads anything else than before, except
that the courses can be listed in another order. -/
theorem read_back_unchanged (schema : Schema) (t : Tables) (unique : Unique t) (courseId : String)
    (c : Course) (read : apiGetCourse t courseId = .ok c) :
    SameReads t ((coreApi schema).step t (.updateCourse c)).1 := by
  apply sameReads_of_registry unique (answered_update unique c).unique
  · show (apiUpdateCourse schema t c).2.db = t.db
    unfold apiUpdateCourse
    split
    · rfl
    dsimp only
    split <;> rfl
  · exact read_back_registry schema read

def trailingComma : Tables :=
  { emptyTables with
    courses := [{ courseId := "CS201", name := "Data Structures", instructor := some "I1",
                  prerequisites := some "CS101,," },
                { courseId := "CS101", name := "Programming", instructor := some "I2" }] }

def trailingCommaRead : Course where
  courseId := "CS201"
  name := "Data Structures"
  instructor := "I1"
  prerequisites := ["CS101"]

theorem trailing_comma_unchanged : SameReads trailingComma
    ((coreApi .sql).step trailingComma (.updateCourse trailingCommaRead)).1 := by
  apply read_back_unchanged .sql trailingComma ⟨by decide, by decide⟩ "CS201" trailingCommaRead
  apply congrArg Except.ok
  decide +kernel

end RealityAI.Proof.CoreApi
