import RealityAI.Library.Run
import RealityAI.Model.ActionTools

/-!
# Concurrent attempts to add a student to a course

An attempt is two steps, between which the steps of others may come: the check of the live state
and, if that allows, the call of the tool with the arguments that were checked. The service always
answers.
-/

namespace RealityAI.Model.Enrollment
open Library Python Safety CoreService ActionTools

structure Course where
  courseId : String
  instructorUserId : String
  capacity : Int
  gradeWindowOpen : Bool

def enrolledStudents (db : Database) (courseId : String) : List String :=
  (db.enrollments.rows.filter fun e =>
    e.courseId = courseId ∧ e.semester = semester ∧ e.status = "ENROLLED").map
      EnrollmentEntity.studentId

/-- The read of `_read_course_state`, from the database. -/
def readCourseState (rt : Runtime) (course : Course) (db : Database) : ReadCourse := fun courseId =>
  let enrolled := enrolledStudents db course.courseId
  if courseId.isStr course.courseId then
    .ok { instructorUserId := course.instructorUserId, currentEnrollment := enrolled.length,
          capacity := course.capacity, gradeWindowOpen := course.gradeWindowOpen,
          enrolledStudents := enrolled }
  else .error ⟨.keyError, rt.reprStr ("course not found: " ++ rt.str courseId)⟩

structure AddAttempt (courseId : String) where
  input : InnerSafetyInput
  studentId : String
  tool : input.toolName = "enrollment_modify"
  course : Dict.get? input.toolArgs "course_id" = some (.str courseId)
  student : Dict.get? input.toolArgs "student_id" = some (.str studentId)
  action : Dict.get? input.toolArgs "action" = some (.str "add")

/-- The database, and the attempts that are allowed and have not called the tool yet. -/
structure System (courseId : String) where
  db : Database
  inFlight : List (AddAttempt courseId)

inductive AttemptStep (courseId : String) where
  | check (attempt : AddAttempt courseId)
  | call (i : Nat)

inductive AttemptEvent where
  | decided (decision : InnerSafetyDecision)
  | returned (result : Except PyExc Dict)

def takeStep (columns : Columns) (rt : Runtime) (course : Course) (sys : System course.courseId) :
    AttemptStep course.courseId → System course.courseId × List AttemptEvent
  | .check attempt =>
      let r := checkLiveState rt (readCourseState rt course sys.db) attempt.input
      if r.decision = .allow then
        ({ sys with inFlight := sys.inFlight ++ [attempt] }, [.decided .allow])
      else (sys, [.decided r.decision])
  | .call i =>
      match sys.inFlight[i]? with
      | none => (sys, [])
      | some attempt =>
          let (result, db) :=
            enrollmentModify (databaseClient columns) attempt.studentId course.courseId "add" sys.db
          (⟨db, sys.inFlight.eraseIdx i⟩, [.returned result])

def attempts (columns : Columns) (rt : Runtime) (course : Course) :
    Machine (System course.courseId) (AttemptStep course.courseId) AttemptEvent :=
  ⟨takeStep columns rt course⟩

end RealityAI.Model.Enrollment
