import RealityAI.Proof.StudentService

namespace RealityAI.Proof.Lifecycle
open Library Model.CoreService StudentService

def status? (db : Database) (key : EnrollmentKey) : Option String :=
  (db.enrollments.find? key).map EnrollmentEntity.status

section
variable (columns : Columns)

def after (db : Database) (call : StudentCall) : Database :=
  ((studentService columns).step db call).1

theorem enrollStudent_after {db : Database} {studentId courseId semester : String}
    (key : EnrollmentKey) :
    (after columns db (.enrollStudent studentId courseId semester)).enrollments.find? key =
      if Insertable columns db studentId courseId semester ∧ key = (studentId, courseId, semester)
      then some (newEnrollment studentId courseId semester) else db.enrollments.find? key := by
  show (committed db (enrollStudent columns db studentId courseId semester)).1.enrollments.find? key = _
  by_cases can : Insertable columns db studentId courseId semester
  · obtain ⟨enrollments, inserted, -, answered⟩ := enrollStudent_insertable can
    rw [answered]
    refine (find?_insert inserted key).trans ?_
    by_cases same : key = (studentId, courseId, semester)
    · exact (if_pos same).trans (if_pos ⟨can, same⟩).symm
    · exact (if_neg same).trans (if_neg fun both => same both.2).symm
  · obtain ⟨e, raised⟩ := enrollStudent_refused can
    rw [raised, if_neg fun both => can both.1]
    rfl

theorem dropEnrollment_after {db : Database} {studentId courseId semester : String}
    (key : EnrollmentKey) :
    (after columns db (.dropEnrollment studentId courseId semester)).enrollments.find? key =
      if key = (studentId, courseId, semester) then
        (db.enrollments.find? key).map fun row => { row with status := "DROPPED" }
      else db.enrollments.find? key := by
  show (dropEnrollment db studentId courseId semester).2.enrollments.find? key = _
  unfold dropEnrollment
  cases found : db.enrollments.find? (studentId, courseId, semester) with
  | none =>
      dsimp only
      by_cases same : key = (studentId, courseId, semester)
      · rw [if_pos same, same, found]
        rfl
      · rw [if_neg same]
  | some row =>
      have named : row.key = (studentId, courseId, semester) := (find?_iff found).2
      refine (find?_update db.enrollments { row with status := "DROPPED" } key).trans ?_
      show (if key = row.key then _ else _) = _
      rw [named]
      by_cases same : key = (studentId, courseId, semester)
      · rw [if_pos same, if_pos same, same, found]
        rfl
      · rw [if_neg same, if_neg same]

theorem updateGrade_after {db : Database} {studentId courseId semester grade : String}
    (key : EnrollmentKey) :
    (after columns db (.updateGrade studentId courseId semester grade)).enrollments.find? key =
      if key = (studentId, courseId, semester) then (db.enrollments.find? key).map fun row =>
        if columns.takesEnrollment { row with grade := some grade } = true then
          { row with grade := some grade } else row
      else db.enrollments.find? key := by
  show (committed db (updateGrade columns db studentId courseId semester grade)).1.enrollments.find? key =
    _
  unfold updateGrade
  cases found : db.enrollments.find? (studentId, courseId, semester) with
  | none =>
      dsimp only
      by_cases same : key = (studentId, courseId, semester)
      · rw [if_pos same, same, found]
        exact found
      · rw [if_neg same]
        rfl
  | some row =>
      have named : row.key = (studentId, courseId, semester) := (find?_iff found).2
      dsimp only
      unfold save
      by_cases same : key = (studentId, courseId, semester)
      · rw [if_pos same, same, found, Option.map_some]
        split
        · refine (find?_update db.enrollments { row with grade := some grade } _).trans ?_
          refine (if_pos named.symm).trans ?_
          rw [found]
          rfl
        · exact found
      · rw [if_neg same]
        split
        · refine (find?_update db.enrollments { row with grade := some grade } key).trans ?_
          exact if_neg (named ▸ same)
        · rfl

theorem others_kept (db : Database) (call : StudentCall) {key : EnrollmentKey}
    (other : key ≠ call.key) :
    (after columns db call).enrollments.find? key = db.enrollments.find? key := by
  cases call with
  | enrollStudent =>
      rw [enrollStudent_after]
      exact if_neg fun both => other both.2
  | dropEnrollment =>
      rw [dropEnrollment_after]
      exact if_neg other
  | updateGrade =>
      rw [updateGrade_after]
      exact if_neg other

def Answered (db : Database) : StudentCall → Prop
  | .enrollStudent studentId courseId semester =>
      studentId ∈ db.students →
      status? db (studentId, courseId, semester) = none ∨
        status? db (studentId, courseId, semester) = some "DROPPED" →
      (∃ made, enrollStudent columns db studentId courseId semester = .ok made) ∧
        status? (after columns db (.enrollStudent studentId courseId semester))
          (studentId, courseId, semester) = some "ENROLLED"
  | .dropEnrollment studentId courseId semester =>
      ((dropEnrollment db studentId courseId semester).1 = true ↔
        status? db (studentId, courseId, semester) = some "ENROLLED") ∧
      ((dropEnrollment db studentId courseId semester).1 = true →
        status? (after columns db (.dropEnrollment studentId courseId semester))
          (studentId, courseId, semester) = some "DROPPED")
  | .updateGrade studentId courseId semester grade =>
      (∃ made, updateGrade columns db studentId courseId semester grade = .ok made) →
      ∃ status, status? db (studentId, courseId, semester) = some status ∧ status ≠ "DROPPED"

def LifecycleKept (db : Database) (call : StudentCall) : Prop :=
  Answered columns db call ∧
    ∀ key, key ≠ call.key →
      (after columns db call).enrollments.find? key = db.enrollments.find? key

/-- No row is enrolled that has been dropped or that its columns do not take, no dropped row takes a
grade, and only rows that are enrolled are dropped. -/
def MeetsStatus (db : Database) : StudentCall → Prop
  | .enrollStudent studentId courseId semester =>
      studentId ∈ db.students →
        status? db (studentId, courseId, semester) ≠ some "DROPPED" ∧
        (status? db (studentId, courseId, semester) = none →
          columns.takesEnrollment (newEnrollment studentId courseId semester) = true)
  | .dropEnrollment studentId courseId semester =>
      ∀ status, status? db (studentId, courseId, semester) = some status → status = "ENROLLED"
  | .updateGrade studentId courseId semester grade =>
      ∀ row, db.enrollments.find? (studentId, courseId, semester) = some row →
        row.status = "DROPPED" →
        columns.takesEnrollment { row with grade := some grade } = false

section
variable {columns : Columns} {db : Database} {studentId courseId semester grade : String}

theorem status?_none : status? db (studentId, courseId, semester) = none ↔
    (studentId, courseId, semester) ∉ db.enrollments.rows.map EnrollmentEntity.key := by
  rw [status?, Option.map_eq_none_iff, find?_none]

theorem enroll_answered_iff :
    Answered columns db (.enrollStudent studentId courseId semester) ↔
      MeetsStatus columns db (.enrollStudent studentId courseId semester) := by
  constructor
  · intro answered known
    constructor
    · intro dropped
      obtain ⟨⟨made, ok⟩, -⟩ := answered known (.inr dropped)
      have free := (enrollStudent_ok_iff.mp ok).1.free
      rw [status?_none.mpr free] at dropped
      cases dropped
    · intro absent
      obtain ⟨⟨made, ok⟩, -⟩ := answered known (.inl absent)
      exact (enrollStudent_ok_iff.mp ok).1.taken
  · intro meets known free
    obtain ⟨undropped, taken⟩ := meets known
    have absent := free.resolve_right undropped
    have can : Insertable columns db studentId courseId semester :=
      ⟨known, status?_none.mp absent, taken absent⟩
    obtain ⟨enrollments, -, -, answered⟩ := enrollStudent_insertable can
    refine ⟨⟨_, answered⟩, ?_⟩
    rw [status?, enrollStudent_after, if_pos ⟨can, rfl⟩]
    rfl

theorem drop_answered_iff :
    Answered columns db (.dropEnrollment studentId courseId semester) ↔
      MeetsStatus columns db (.dropEnrollment studentId courseId semester) := by
  have returned : (dropEnrollment db studentId courseId semester).1 = true ↔
      ∃ status, status? db (studentId, courseId, semester) = some status := by
    unfold dropEnrollment status?
    cases db.enrollments.find? (studentId, courseId, semester) <;> simp
  simp only [Answered, MeetsStatus, returned]
  constructor
  · intro ⟨answered, _⟩ status found
    rw [answered.mp ⟨status, found⟩] at found
    exact (Option.some.inj found).symm
  · intro meets
    constructor
    · constructor
      · intro ⟨status, found⟩
        rw [found, meets status found]
      · intro enrolled
        exact ⟨_, enrolled⟩
    · intro ⟨status, found⟩
      obtain ⟨row, here, -⟩ := Option.map_eq_some_iff.mp found
      rw [status?, dropEnrollment_after, if_pos rfl, here]
      rfl

theorem grade_answered_iff :
    Answered columns db (.updateGrade studentId courseId semester grade) ↔
      MeetsStatus columns db (.updateGrade studentId courseId semester grade) := by
  simp only [Answered, MeetsStatus, updateGrade_ok_iff, status?]
  constructor
  · intro answered row found dropped
    by_contra taken
    obtain ⟨status, here, other⟩ := answered ⟨_, row, found, Bool.not_eq_false _ ▸ taken, rfl⟩
    rw [found] at here
    exact other ((Option.some.inj here).symm.trans dropped)
  · rintro meets ⟨made, row, found, taken, -⟩
    refine ⟨row.status, by rw [found]; rfl, fun dropped => ?_⟩
    rw [meets row found dropped] at taken
    cases taken

end

theorem lifecycle_step_iff (db : Database) (call : StudentCall) :
    LifecycleKept columns db call ↔ MeetsStatus columns db call := by
  have answered : Answered columns db call ↔ MeetsStatus columns db call := by
    cases call with
    | enrollStudent studentId courseId semester => exact enroll_answered_iff
    | dropEnrollment studentId courseId semester => exact drop_answered_iff
    | updateGrade studentId courseId semester grade => exact grade_answered_iff
  rw [← answered]
  exact and_iff_left fun key other => others_kept columns db call other

end

/-- From any database, the life of every enrollment is kept in exactly the runs whose calls all meet
a row of the right status, or none that fits its columns. -/
theorem lifecycle_kept_iff (columns : Columns) (db : Database) (calls : List StudentCall) :
    (studentService columns).Along (LifecycleKept columns) db calls ↔
      (studentService columns).Along (MeetsStatus columns) db calls :=
  ⟨Machine.Along.mono fun db call => (lifecycle_step_iff columns db call).mp,
    Machine.Along.mono fun db call => (lifecycle_step_iff columns db call).mpr⟩

theorem dropped_step (columns : Columns) (db : Database) (call : StudentCall) {key : EnrollmentKey}
    (dropped : status? db key = some "DROPPED") :
    status? (after columns db call) key = some "DROPPED" := by
  by_cases other : key ≠ call.key
  · rw [status?, others_kept columns db call other]
    exact dropped
  · obtain rfl := not_not.mp other
    obtain ⟨row, found, named⟩ := Option.map_eq_some_iff.mp dropped
    cases call with
    | enrollStudent studentId courseId semester =>
        have taken : ¬ Insertable columns db studentId courseId semester := fun can =>
          can.free (List.mem_map.mpr ⟨row, find?_iff found⟩)
        rw [status?, enrollStudent_after, if_neg fun both => taken both.1]
        exact dropped
    | dropEnrollment studentId courseId semester =>
        rw [status?, dropEnrollment_after]
        refine (congrArg _ (if_pos rfl)).trans ?_
        rw [found]
        rfl
    | updateGrade studentId courseId semester grade =>
        rw [status?, updateGrade_after]
        refine (congrArg _ (if_pos rfl)).trans ?_
        rw [found]
        refine congrArg some (Eq.trans ?_ named)
        dsimp only
        split <;> rfl

theorem dropped_forever (columns : Columns) (db : Database) (calls : List StudentCall)
    {key : EnrollmentKey} (dropped : status? db key = some "DROPPED") :
    status? ((studentService columns).run db calls).1 key = some "DROPPED" :=
  Machine.run_invariant (fun db call _ => dropped_step columns db call)
    ((studentService columns).along_true db calls) dropped

/-! A student drops a course and wants it back. -/

def registrar : Database := ⟨["STU001"], ⟨[], List.nodup_nil⟩, []⟩

theorem dropped_course_lost :
    ¬ ∀ calls, (studentService .schema).Along (LifecycleKept .schema) registrar calls := by
  intro all
  obtain ⟨-, -, ⟨answered, -⟩, -⟩ := all [.enrollStudent "STU001" "CS101" "Fall 2025",
    .dropEnrollment "STU001" "CS101" "Fall 2025", .enrollStudent "STU001" "CS101" "Fall 2025"]
  obtain ⟨⟨made, ok⟩, -⟩ := answered (by decide) (.inr (by decide))
  cases ok

end RealityAI.Proof.Lifecycle
