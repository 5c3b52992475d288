import RealityAI.Library.Keyed
import RealityAI.Library.Run
import Mathlib.Data.List.Nodup

/-!
# The services behind the write tools: students and assignments

The id that the database generates for an enrollment is left out. Which values a column takes
(`schema.sql` bounds their lengths) is a parameter.
-/

namespace RealityAI.Model.CoreService
open Library

/-! ## Entities -/

structure EnrollmentEntity where
  studentId : String
  courseId : String
  semester : String
  grade : Option String := none
  status : String
  deriving DecidableEq, Repr

abbrev EnrollmentKey := String × String × String

def EnrollmentEntity.key (e : EnrollmentEntity) : EnrollmentKey :=
  (e.studentId, e.courseId, e.semester)

/-- `UNIQUE (student_id, course_id, semester)` -/
structure EnrollmentTable where
  rows : List EnrollmentEntity
  unique : (rows.map EnrollmentEntity.key).Nodup

structure AssignmentEntity where
  assignmentId : String
  courseId : String
  title : String
  description : String
  dueDate : String
  maxPoints : Int
  deriving DecidableEq, Repr

structure Database where
  students : List String
  enrollments : EnrollmentTable
  assignments : List AssignmentEntity

/-- The rows that fit their columns. -/
structure Columns where
  takesEnrollment : EnrollmentEntity → Bool
  takesAssignment : AssignmentEntity → Bool

def Columns.schema : Columns where
  takesEnrollment e := e.studentId.length ≤ 20 && e.courseId.length ≤ 20 && e.semester.length ≤ 20 &&
    e.grade.all (·.length ≤ 5) && e.status.length ≤ 20
  takesAssignment a := a.assignmentId.length ≤ 30 && a.courseId.length ≤ 20 &&
    a.title.length ≤ 255 && a.description.length ≤ 1000 && a.dueDate.length ≤ 50

inductive ServiceException where
  | illegalArgument (message : String)
  | dataIntegrityViolation

namespace EnrollmentTable

def find? (t : EnrollmentTable) (key : EnrollmentKey) : Option EnrollmentEntity :=
  t.rows.find? fun e => e.key = key

def insert (t : EnrollmentTable) (e : EnrollmentEntity) : Except ServiceException EnrollmentTable :=
  if fresh : e.key ∈ t.rows.map EnrollmentEntity.key then .error .dataIntegrityViolation
  else .ok
    { rows := t.rows ++ [e]
      unique := by
        rw [List.map_append]
        exact t.unique.append (List.nodup_singleton _) (by simpa using fresh) }

def update (t : EnrollmentTable) (new : EnrollmentEntity) : EnrollmentTable where
  rows := t.rows.map fun e => if e.key = new.key then new else e
  unique := by
    have keys : (EnrollmentEntity.key ∘ fun e => if e.key = new.key then new else e) =
        EnrollmentEntity.key := by
      funext e
      rw [Function.comp_apply]
      split
      · exact Eq.symm ‹_›
      · rfl
    rw [List.map_map, keys]
    exact t.unique

end EnrollmentTable

section
variable (columns : Columns)

/-! ## `StudentService.java` -/

/-- `save`, with the database that is committed if the columns take the row. -/
def save {α : Type} (takes : α → Bool) (row : α) (db : Database) :
    Except ServiceException (α × Database) :=
  if takes row then .ok (row, db) else .error .dataIntegrityViolation

def enrollStudent (db : Database) (studentId courseId semester : String) :
    Except ServiceException (EnrollmentEntity × Database) :=
  if studentId ∈ db.students then
    let enrollment := { studentId, courseId, semester, status := "ENROLLED" }
    match db.enrollments.insert enrollment with
    | .ok enrollments => save columns.takesEnrollment enrollment { db with enrollments }
    | .error e => .error e
  else .error (.illegalArgument ("Student not found: " ++ studentId))

/-- The new status fits its column. -/
def dropEnrollment (db : Database) (studentId courseId semester : String) : Bool × Database :=
  match db.enrollments.find? (studentId, courseId, semester) with
  | none => (false, db)
  | some enrollment =>
      (true, { db with
        enrollments := db.enrollments.update { enrollment with status := "DROPPED" } })

def updateGrade (db : Database) (studentId courseId semester grade : String) :
    Except ServiceException (EnrollmentEntity × Database) :=
  match db.enrollments.find? (studentId, courseId, semester) with
  | none => .error (.illegalArgument
      ("Enrollment not found: " ++ studentId ++ "/" ++ courseId ++ "/" ++ semester))
  | some found =>
      let enrollment := { found with grade := some grade }
      save columns.takesEnrollment enrollment
        { db with enrollments := db.enrollments.update enrollment }

inductive StudentCall where
  | enrollStudent (studentId courseId semester : String)
  | dropEnrollment (studentId courseId semester : String)
  | updateGrade (studentId courseId semester grade : String)

def StudentCall.key : StudentCall → EnrollmentKey
  | .enrollStudent studentId courseId semester => (studentId, courseId, semester)
  | .dropEnrollment studentId courseId semester => (studentId, courseId, semester)
  | .updateGrade studentId courseId semester _ => (studentId, courseId, semester)

inductive StudentAnswer where
  | entity (enrollment : EnrollmentEntity)
  | found (dropped : Bool)
  | raised (e : ServiceException)

/-- A transaction that raises is rolled back. -/
def committed (db : Database) :
    Except ServiceException (EnrollmentEntity × Database) → Database × List StudentAnswer
  | .ok (enrollment, db') => (db', [.entity enrollment])
  | .error e => (db, [.raised e])

def takeStudentCall (db : Database) : StudentCall → Database × List StudentAnswer
  | .enrollStudent studentId courseId semester =>
      committed db (enrollStudent columns db studentId courseId semester)
  | .dropEnrollment studentId courseId semester =>
      let (dropped, db') := dropEnrollment db studentId courseId semester
      (db', [.found dropped])
  | .updateGrade studentId courseId semester grade =>
      committed db (updateGrade columns db studentId courseId semester grade)

def studentService : Machine Database StudentCall StudentAnswer := ⟨takeStudentCall columns⟩

/-! ## `AssignmentService.java` -/

def createAssignment (db : Database) (assignment : AssignmentEntity) :
    Except ServiceException (AssignmentEntity × Database) :=
  save columns.takesAssignment assignment
    { db with assignments := saveRow AssignmentEntity.assignmentId db.assignments assignment }

/-! ## `StudentGrpcService.java` and `AssignmentGrpcService.java` -/

inductive StatusCode where
  | notFound | invalidArgument | unknown
  deriving DecidableEq, Repr

structure Status where
  code : StatusCode
  description : Option String

def statusOf : ServiceException → Status
  | .illegalArgument message => ⟨.notFound, some message⟩
  -- not caught by the service
  | .dataIntegrityViolation => ⟨.unknown, none⟩

def grpcEnrollStudent (db : Database) (studentId courseId semester : String) :
    Except Status (EnrollmentEntity × Database) :=
  (enrollStudent columns db studentId courseId semester).mapError statusOf

def grpcDropEnrollment (db : Database) (studentId courseId semester : String) :
    Except Status Database :=
  match dropEnrollment db studentId courseId semester with
  | (true, db') => .ok db'
  | (false, _) => .error ⟨.notFound, some "Enrollment not found"⟩

def grpcUpdateGrade (db : Database) (studentId courseId semester grade : String) :
    Except Status (EnrollmentEntity × Database) :=
  (updateGrade columns db studentId courseId semester grade).mapError statusOf

def grpcCreateAssignment (db : Database) (assignment : AssignmentEntity) :
    Except Status (AssignmentEntity × Database) :=
  if assignment.assignmentId = "" ∨ assignment.courseId = "" then
    .error ⟨.invalidArgument, some "assignment_id and course_id are required"⟩
  else (createAssignment columns db assignment).mapError statusOf

end

end RealityAI.Model.CoreService
