import RealityAI.Model.Backend
import RealityAI.Proof.StudentService

namespace RealityAI.Proof.Backend
open Library Python Model.Safety Model.CoreService Model.ActionTools Model.Backend StudentService

def enrollmentKey (studentId courseId : String) : EnrollmentKey := (studentId, courseId, semester)

def newAssignment (hex courseId title dueDate description : String) : AssignmentEntity :=
  { assignmentId := courseId ++ "-" ++ hex, courseId, title, description, dueDate, maxPoints := 100 }

def Admissible (columns : Columns) (hex : String) (db : Database) : WriteCall → Prop
  | .gradeUpdate studentId courseId _ grade =>
      ∃ e, db.enrollments.find? (enrollmentKey studentId courseId) = some e ∧
        columns.takesEnrollment { e with grade := some grade } = true
  | .enrollmentModify studentId courseId action =>
      if action = "add" then Insertable columns db studentId courseId semester
      else (db.enrollments.find? (enrollmentKey studentId courseId)).isSome
  | .assignmentCreate courseId title dueDate description =>
      courseId ≠ "" ∧
        columns.takesAssignment (newAssignment hex courseId title dueDate description) = true

def Written (hex : String) (db : Database) : WriteCall → Prop
  | .gradeUpdate studentId courseId _ grade =>
      ∃ e ∈ db.enrollments.rows, e.key = enrollmentKey studentId courseId ∧ e.grade = some grade
  | .enrollmentModify studentId courseId action =>
      ∃ e ∈ db.enrollments.rows, e.key = enrollmentKey studentId courseId ∧
        e.status = if action = "add" then "ENROLLED" else "DROPPED"
  | .assignmentCreate courseId title dueDate description =>
      newAssignment hex courseId title dueDate description ∈ db.assignments

/-- The answer of the running service, with its database after a commit. -/
def serviceAnswer (columns : Columns) (hex : String) (db : Database) :
    WriteCall → Except Status Database
  | .gradeUpdate studentId courseId _ grade =>
      (grpcUpdateGrade columns db studentId courseId semester grade).map Prod.snd
  | .enrollmentModify studentId courseId action =>
      if action = "add" then
        (grpcEnrollStudent columns db studentId courseId semester).map Prod.snd
      else grpcDropEnrollment db studentId courseId semester
  | .assignmentCreate courseId title dueDate description =>
      (grpcCreateAssignment columns db
        (newAssignment hex courseId title dueDate description)).map Prod.snd

/-- A reported success stands for a commit, unless the service was unreachable. -/
def Honest (columns : Columns) (hex : String) (call : WriteCall) (s : Server) : Prop :=
  ∀ d, (runCall (backendClient columns) hex call s).1 = .ok d →
    Dict.get d "success" = .bool true →
    s.reachable = false ∨
      serviceAnswer columns hex s.db call =
        .ok (runCall (backendClient columns) hex call s).2.db ∧
      Written hex (runCall (backendClient columns) hex call s).2.db call

section
variable {columns : Columns} {hex : String} {db : Database} {s : Server}

theorem map_snd_ok {ε α β : Type} {x : Except ε (α × β)} {b : β} :
    x.map Prod.snd = .ok b ↔ ∃ a, x = .ok (a, b) := by
  cases x with
  | error e => exact iff_of_false nofun nofun
  | ok made =>
      obtain ⟨a, b'⟩ := made
      simp [Except.map]

theorem grpcEnrollStudent_ok {studentId courseId : String} {row : EnrollmentEntity}
    {db' : Database} :
    grpcEnrollStudent columns db studentId courseId semester = .ok (row, db') ↔
      Insertable columns db studentId courseId semester ∧ ∃ enrollments,
        db.enrollments.insert (newEnrollment studentId courseId semester) = .ok enrollments ∧
        row = newEnrollment studentId courseId semester ∧ db' = { db with enrollments } := by
  rw [grpcEnrollStudent, mapError_ok, enrollStudent_ok_iff]
  simp only [Prod.mk.injEq]

theorem grpcUpdateGrade_ok {studentId courseId grade : String} {row : EnrollmentEntity}
    {db' : Database} :
    grpcUpdateGrade columns db studentId courseId semester grade = .ok (row, db') ↔
      ∃ e, db.enrollments.find? (enrollmentKey studentId courseId) = some e ∧
        columns.takesEnrollment { e with grade := some grade } = true ∧
        row = { e with grade := some grade } ∧
        db' = { db with enrollments := db.enrollments.update { e with grade := some grade } } := by
  rw [grpcUpdateGrade, mapError_ok, updateGrade_ok_iff]
  simp only [Prod.mk.injEq, enrollmentKey]

theorem grpcDropEnrollment_ok {studentId courseId : String} {db' : Database} :
    grpcDropEnrollment db studentId courseId semester = .ok db' ↔
      ∃ e, db.enrollments.find? (enrollmentKey studentId courseId) = some e ∧
        db' = { db with enrollments := db.enrollments.update { e with status := "DROPPED" } } := by
  rw [enrollmentKey, ← dropEnrollment_true_iff]
  unfold grpcDropEnrollment
  rcases dropEnrollment db studentId courseId semester with ⟨found, db₁⟩
  cases found <;> simp

theorem grpcCreateAssignment_ok {a row : AssignmentEntity} {db' : Database} :
    grpcCreateAssignment columns db a = .ok (row, db') ↔
      ¬ (a.assignmentId = "" ∨ a.courseId = "") ∧ columns.takesAssignment a = true ∧ row = a ∧
        db' = { db with assignments := saveRow AssignmentEntity.assignmentId db.assignments a } := by
  unfold grpcCreateAssignment
  split
  · rename_i empty
    exact iff_of_false (by simp) fun filled => filled.1 empty
  · rename_i filled
    rw [mapError_ok, createAssignment, save, and_iff_right filled]
    split
    · rename_i taken
      simp only [taken, true_and, Except.ok.injEq, Prod.mk.injEq]
      exact and_congr eq_comm eq_comm
    · rename_i refused
      exact iff_of_false (by simp) fun taken => refused taken.1

theorem newAssignment_id (courseId title dueDate description : String) :
    (newAssignment hex courseId title dueDate description).assignmentId ≠ "" := by
  intro empty
  have length := congrArg String.length empty
  simp [newAssignment] at length

theorem serviceAnswer_written {call : WriteCall} {db' : Database}
    (answered : serviceAnswer columns hex db call = .ok db') : Written hex db' call := by
  cases call with
  | gradeUpdate studentId courseId assignmentId grade =>
      obtain ⟨row, written⟩ := map_snd_ok.mp answered
      obtain ⟨e, found, -, rfl, rfl⟩ := grpcUpdateGrade_ok.mp written
      obtain ⟨mem, key⟩ := find?_iff found
      exact ⟨_, update_mem mem rfl, key, rfl⟩
  | enrollmentModify studentId courseId action =>
      by_cases add : action = "add"
      · simp only [serviceAnswer, if_pos add] at answered
        obtain ⟨row, written⟩ := map_snd_ok.mp answered
        obtain ⟨can, enrollments, inserted, rfl, rfl⟩ := grpcEnrollStudent_ok.mp written
        have found := find?_insert inserted (newEnrollment studentId courseId semester).key
        rw [if_pos rfl] at found
        exact ⟨_, (find?_iff found).1, rfl, (if_pos add).symm⟩
      · simp only [serviceAnswer, if_neg add] at answered
        obtain ⟨e, found, rfl⟩ := grpcDropEnrollment_ok.mp answered
        obtain ⟨mem, key⟩ := find?_iff found
        exact ⟨_, update_mem mem rfl, key, (if_neg add).symm⟩
  | assignmentCreate courseId title dueDate description =>
      obtain ⟨row, written⟩ := map_snd_ok.mp answered
      obtain ⟨-, -, rfl, rfl⟩ := grpcCreateAssignment_ok.mp written
      exact List.mem_append_right _ (List.mem_singleton_self _)

theorem serviceAnswer_ok_iff (call : WriteCall) :
    (∃ db', serviceAnswer columns hex db call = .ok db') ↔ Admissible columns hex db call := by
  cases call with
  | gradeUpdate studentId courseId assignmentId grade =>
      simp only [serviceAnswer, map_snd_ok, grpcUpdateGrade_ok, Admissible]
      constructor
      · rintro ⟨db', row, e, found, fits, -⟩
        exact ⟨e, found, fits⟩
      · rintro ⟨e, found, fits⟩
        exact ⟨_, _, e, found, fits, rfl, rfl⟩
  | enrollmentModify studentId courseId action =>
      by_cases add : action = "add"
      · simp only [serviceAnswer, Admissible, if_pos add, map_snd_ok, grpcEnrollStudent_ok]
        constructor
        · rintro ⟨db', row, can, -⟩
          exact can
        · intro can
          obtain ⟨enrollments, inserted, -⟩ := enrollStudent_insertable can
          exact ⟨_, _, can, enrollments, inserted, rfl, rfl⟩
      · simp only [serviceAnswer, Admissible, if_neg add, grpcDropEnrollment_ok,
          Option.isSome_iff_exists]
        constructor
        · rintro ⟨db', e, found, -⟩
          exact ⟨e, found⟩
        · rintro ⟨e, found⟩
          exact ⟨_, e, found, rfl⟩
  | assignmentCreate courseId title dueDate description =>
      simp only [serviceAnswer, map_snd_ok, grpcCreateAssignment_ok, Admissible, not_or,
        newAssignment_id, ne_eq, not_false_eq_true, true_and]
      constructor
      · rintro ⟨db', row, filled, fits, -⟩
        exact ⟨filled, fits⟩
      · rintro ⟨filled, fits⟩
        exact ⟨_, _, filled, fits, rfl, rfl⟩

def afterCall (s : Server) (answer : Except Status Database) : Server :=
  if s.reachable then { s with db := answer.toOption.getD s.db } else s

theorem orMock_overChannel {α β : Type} (answer : Database → Except Status (α × Database))
    {reply : α → β} {returned : β → Dict} {mock : Dict}
    (mocked : Dict.get mock "success" = .bool true)
    (done : ∀ result, Dict.get (returned result) "success" = .bool true) :
    ∃ d, orMock (overChannel (fun db => delivered db (answer db) reply) s) returned mock =
        (.ok d, afterCall s ((answer s.db).map Prod.snd)) ∧
      Dict.get d "success" = .bool true := by
  unfold overChannel afterCall
  by_cases up : s.reachable = true
  · simp only [if_pos up]
    cases answer s.db with
    | ok written => exact ⟨_, rfl, done _⟩
    | error status => exact ⟨_, rfl, mocked⟩
  · simp only [if_neg up]
    exact ⟨_, rfl, mocked⟩

variable (columns hex s) in
/-- Every call reports success. -/
theorem runCall_reports (call : WriteCall) :
    ∃ d, runCall (backendClient columns) hex call s =
        (.ok d, afterCall s (serviceAnswer columns hex s.db call)) ∧
      Dict.get d "success" = .bool true := by
  cases call with
  | gradeUpdate studentId courseId assignmentId grade =>
      apply orMock_overChannel fun db => grpcUpdateGrade columns db studentId courseId semester grade
      · rfl
      · exact fun _ => rfl
  | enrollmentModify studentId courseId action =>
      simp only [runCall, enrollmentModify, serviceAnswer]
      by_cases add : action = "add"
      · simp only [if_pos add]
        apply orMock_overChannel fun db => grpcEnrollStudent columns db studentId courseId semester
        · rfl
        · exact fun _ => rfl
      · simp only [if_neg add]
        have dropped : ((grpcDropEnrollment s.db studentId courseId semester).map
            ((), ·)).map Prod.snd = grpcDropEnrollment s.db studentId courseId semester := by
          cases grpcDropEnrollment s.db studentId courseId semester <;> rfl
        rw [← dropped]
        apply orMock_overChannel fun db =>
          (grpcDropEnrollment db studentId courseId semester).map ((), ·)
        · rfl
        · exact fun _ => rfl
  | assignmentCreate courseId title dueDate description =>
      apply orMock_overChannel fun db =>
        grpcCreateAssignment columns db (newAssignment hex courseId title dueDate description)
      · rfl
      · exact fun _ => rfl

end

/-- What a function of `ACTION_TOOLS` reports is honest in exactly these cases: the service is
unreachable, or it can do what the call asks for. -/
theorem success_committed_iff (columns : Columns) (hex : String) (call : WriteCall) (s : Server) :
    Honest columns hex call s ↔ s.reachable = false ∨ Admissible columns hex s.db call := by
  unfold Honest
  obtain ⟨d, made, success⟩ := runCall_reports columns hex s call
  simp only [made, Except.ok.injEq, forall_eq', success, forall_const, ← serviceAnswer_ok_iff]
  by_cases up : s.reachable = true
  · simp only [afterCall, up, Bool.true_eq_false, false_or]
    constructor
    · rintro ⟨answered, -⟩
      exact ⟨_, answered⟩
    · rintro ⟨db', answered⟩
      rw [answered]
      exact ⟨rfl, serviceAnswer_written answered⟩
  · simp only [Bool.not_eq_true] at up
    exact iff_of_true (.inl up) (.inl up)

/-! The service refuses to enroll a student it does not know, and the tool reports success. -/

def emptyDatabase : Database := ⟨["S001"], ⟨[], List.nodup_nil⟩, []⟩

theorem refused_enrollment_reported_done :
    ¬ Honest .schema "0A1B2C" (.enrollmentModify "S999" "CS101" "add") ⟨emptyDatabase, true⟩ := by
  intro honest
  rcases honest _ rfl rfl with up | ⟨answered, -⟩
  · cases up
  · cases answered

end RealityAI.Proof.Backend
