import RealityAI.Model.CoreService

namespace RealityAI.Proof.StudentService
open Model.CoreService

section
variable {t t' : EnrollmentTable} {e new : EnrollmentEntity} {key : EnrollmentKey}

theorem find?_iff (found : t.find? key = some e) : e ∈ t.rows ∧ e.key = key := by
  refine ⟨List.mem_of_find?_eq_some found, ?_⟩
  have hit := List.find?_some found
  simpa using hit

theorem find?_none : t.find? key = none ↔ key ∉ t.rows.map EnrollmentEntity.key := by
  rw [EnrollmentTable.find?, List.find?_eq_none]
  simp

theorem insert_fresh (fresh : e.key ∉ t.rows.map EnrollmentEntity.key) :
    ∃ t', t.insert e = .ok t' ∧ t'.rows = t.rows ++ [e] :=
  ⟨_, dif_neg fresh, rfl⟩

theorem insert_taken (taken : e.key ∈ t.rows.map EnrollmentEntity.key) :
    t.insert e = .error .dataIntegrityViolation := dif_pos taken

theorem find?_insert (inserted : t.insert e = .ok t') (key : EnrollmentKey) :
    t'.find? key = if key = e.key then some e else t.find? key := by
  unfold EnrollmentTable.insert at inserted
  split at inserted
  · cases inserted
  · rename_i fresh
    cases inserted
    show (t.rows ++ [e]).find? _ = _
    rw [List.find?_append]
    by_cases same : key = e.key
    · subst same
      have none : t.rows.find? (fun row => row.key = e.key) = none := find?_none.mpr fresh
      simp [none]
    · simp [same, Ne.symm same, EnrollmentTable.find?]

theorem update_mem (mem : e ∈ t.rows) (same : e.key = new.key) : new ∈ (t.update new).rows := by
  refine List.mem_map.mpr ⟨e, mem, ?_⟩
  rw [if_pos same]

theorem find?_update (t : EnrollmentTable) (new : EnrollmentEntity) (key : EnrollmentKey) :
    (t.update new).find? key =
      if key = new.key then (t.find? key).map fun _ => new else t.find? key := by
  have keyed (row : EnrollmentEntity) :
      (if row.key = new.key then new else row).key = row.key := by
    split
    · exact Eq.symm ‹_›
    · rfl
  have moved : (t.update new).find? key =
      (t.find? key).map fun row => if row.key = new.key then new else row := by
    show (t.rows.map _).find? _ = _
    rw [List.find?_map]
    congr 1
    apply congrArg (List.find? · t.rows)
    funext row
    simp only [Function.comp_apply, keyed]
  rw [moved]
  cases found : t.find? key with
  | none => simp
  | some row =>
      have named : row.key = key := (find?_iff found).2
      simp only [Option.map_some, named]
      split <;> rfl

end

def newEnrollment (studentId courseId semester : String) : EnrollmentEntity :=
  { studentId, courseId, semester, status := "ENROLLED" }

/-- The database takes a new row for this student. -/
structure Insertable (columns : Columns) (db : Database) (studentId courseId semester : String) :
    Prop where
  known : studentId ∈ db.students
  free : (studentId, courseId, semester) ∉ db.enrollments.rows.map EnrollmentEntity.key
  taken : columns.takesEnrollment (newEnrollment studentId courseId semester) = true

theorem insertable_iff {columns : Columns} {db : Database} {studentId courseId semester : String} :
    Insertable columns db studentId courseId semester ↔ studentId ∈ db.students ∧
      (studentId, courseId, semester) ∉ db.enrollments.rows.map EnrollmentEntity.key ∧
      columns.takesEnrollment (newEnrollment studentId courseId semester) = true :=
  ⟨fun can => ⟨can.known, can.free, can.taken⟩, fun both => ⟨both.1, both.2.1, both.2.2⟩⟩

instance (columns : Columns) (db : Database) (studentId courseId semester : String) :
    Decidable (Insertable columns db studentId courseId semester) :=
  decidable_of_iff (studentId ∈ db.students ∧
      (∀ e ∈ db.enrollments.rows, e.key ≠ (studentId, courseId, semester)) ∧
      columns.takesEnrollment (newEnrollment studentId courseId semester) = true) (by
    rw [insertable_iff, List.mem_map, not_exists]
    simp only [not_and])

section
variable {columns : Columns} {db db' : Database} {studentId courseId semester grade : String}

theorem mapError_ok {ε ε' α : Type} {f : ε → ε'} {x : Except ε α} {a : α} :
    x.mapError f = .ok a ↔ x = .ok a := by
  cases x <;> simp [Except.mapError]

theorem enrollStudent_insertable (can : Insertable columns db studentId courseId semester) :
    ∃ enrollments,
      db.enrollments.insert (newEnrollment studentId courseId semester) = .ok enrollments ∧
      enrollments.rows = db.enrollments.rows ++ [newEnrollment studentId courseId semester] ∧
      enrollStudent columns db studentId courseId semester =
        .ok (newEnrollment studentId courseId semester, { db with enrollments }) := by
  obtain ⟨enrollments, inserted, rows⟩ :=
    insert_fresh (t := db.enrollments) (e := newEnrollment studentId courseId semester) can.free
  refine ⟨enrollments, inserted, rows, ?_⟩
  have taken := can.taken
  unfold newEnrollment at inserted taken ⊢
  simp only [enrollStudent, if_pos can.known, inserted, save, if_pos taken]

theorem enrollStudent_refused (refused : ¬ Insertable columns db studentId courseId semester) :
    ∃ e, enrollStudent columns db studentId courseId semester = .error e := by
  by_cases known : studentId ∈ db.students
  · by_cases free : (studentId, courseId, semester) ∉ db.enrollments.rows.map EnrollmentEntity.key
    · obtain ⟨enrollments, inserted, -⟩ :=
        insert_fresh (t := db.enrollments) (e := newEnrollment studentId courseId semester) free
      have taken : ¬ columns.takesEnrollment (newEnrollment studentId courseId semester) = true :=
        fun taken => refused ⟨known, free, taken⟩
      refine ⟨.dataIntegrityViolation, ?_⟩
      unfold newEnrollment at inserted taken
      simp only [enrollStudent, if_pos known, inserted, save, if_neg taken]
    · have failed := insert_taken (e := newEnrollment studentId courseId semester)
        (not_not.mp free)
      refine ⟨.dataIntegrityViolation, ?_⟩
      unfold newEnrollment at failed
      simp only [enrollStudent, if_pos known, failed]
  · exact ⟨_, if_neg known⟩

theorem enrollStudent_ok_iff {made : EnrollmentEntity × Database} :
    enrollStudent columns db studentId courseId semester = .ok made ↔
      Insertable columns db studentId courseId semester ∧ ∃ enrollments,
        db.enrollments.insert (newEnrollment studentId courseId semester) = .ok enrollments ∧
        made = (newEnrollment studentId courseId semester, { db with enrollments }) := by
  constructor
  · intro ok
    by_cases can : Insertable columns db studentId courseId semester
    · obtain ⟨enrollments, inserted, -, answered⟩ := enrollStudent_insertable can
      exact ⟨can, enrollments, inserted, Except.ok.inj (ok.symm.trans answered)⟩
    · obtain ⟨e, raised⟩ := enrollStudent_refused can
      cases ok.symm.trans raised
  · rintro ⟨can, enrollments, inserted, rfl⟩
    obtain ⟨enrollments', inserted', -, answered⟩ := enrollStudent_insertable can
    rw [answered, Except.ok.inj (inserted.symm.trans inserted')]

theorem updateGrade_ok_iff {made : EnrollmentEntity × Database} :
    updateGrade columns db studentId courseId semester grade = .ok made ↔
      ∃ row, db.enrollments.find? (studentId, courseId, semester) = some row ∧
        columns.takesEnrollment { row with grade := some grade } = true ∧
        made = ({ row with grade := some grade },
          { db with enrollments := db.enrollments.update { row with grade := some grade } }) := by
  unfold updateGrade
  cases db.enrollments.find? (studentId, courseId, semester) with
  | none => simp
  | some row =>
      simp only [save, Option.some.injEq, exists_eq_left']
      split
      · rename_i taken
        exact ⟨fun ok => ⟨taken, (Except.ok.inj ok).symm⟩, fun same => congrArg _ same.2.symm⟩
      · rename_i refused
        exact iff_of_false nofun fun same => refused same.1

theorem dropEnrollment_true_iff : dropEnrollment db studentId courseId semester = (true, db') ↔
    ∃ row, db.enrollments.find? (studentId, courseId, semester) = some row ∧
      db' = { db with enrollments := db.enrollments.update { row with status := "DROPPED" } } := by
  unfold dropEnrollment
  cases db.enrollments.find? (studentId, courseId, semester) with
  | none => simp
  | some row =>
      simp only [Prod.mk.injEq, true_and, Option.some.injEq, exists_eq_left']
      exact eq_comm

end

end RealityAI.Proof.StudentService
