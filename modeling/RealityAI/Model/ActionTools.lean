import RealityAI.Model.ActionAgent
import RealityAI.Model.CoreService

/-!
# The functions of `ACTION_TOOLS` and the client of the core service
-/

namespace RealityAI.Model.ActionTools
open Python Safety ActionAgent CoreService

/-! ## `grpc_client/client.py` -/

/-- A call of the service: what the stub returns or raises, and the service after it. -/
abbrev Call (σ α : Type) := σ → Except PyExc α × σ

structure CoreServiceClient (σ : Type) where
  updateGrade : (studentId courseId semester grade : String) → Call σ Json
  enrollStudent : (studentId courseId semester : String) → Call σ Json
  dropEnrollment : (studentId courseId semester : String) → Call σ Bool
  createAssignment : (assignmentData : AssignmentEntity) → Call σ Json

def enrollmentToDict (e : EnrollmentEntity) : Json :=
  .obj [("course_id", .str e.courseId), ("semester", .str e.semester),
    ("grade", .str (e.grade.getD "")), ("status", .str e.status)]

def assignmentToDict (a : AssignmentEntity) : Json :=
  .obj [("assignment_id", .str a.assignmentId), ("course_id", .str a.courseId),
    ("title", .str a.title), ("description", .str a.description), ("due_date", .str a.dueDate),
    ("max_points", .int a.maxPoints)]

def rpcError (status : Status) : PyExc := ⟨.rpcError, status.description.getD ""⟩

def delivered {α β : Type} (db : Database) (answer : Except Status (α × Database)) (reply : α → β) :
    Except PyExc β × Database :=
  match answer with
  | .ok (a, db') => (.ok (reply a), db')
  | .error status => (.error (rpcError status), db)

def databaseClient (columns : Columns) : CoreServiceClient Database where
  updateGrade studentId courseId semester grade db :=
    delivered db (grpcUpdateGrade columns db studentId courseId semester grade) enrollmentToDict
  enrollStudent studentId courseId semester db :=
    delivered db (grpcEnrollStudent columns db studentId courseId semester) enrollmentToDict
  dropEnrollment studentId courseId semester db :=
    delivered db ((grpcDropEnrollment db studentId courseId semester).map ((), ·)) fun _ => true
  createAssignment assignment db :=
    delivered db (grpcCreateAssignment columns db assignment) assignmentToDict

/-! ## `agents/action_agent.py` -/

def semester : String := "Fall 2025"

def mockFallback (operation : String) (kwargs : Dict) : Dict :=
  [("success", .bool true), ("operation", .str operation), ("mock", .bool true)] ++ kwargs

section
variable {σ α : Type}

/-- `try: ... except grpc.RpcError` around the call of a tool. -/
def orMock (call : Except PyExc α × σ) (returned : α → Dict) (mock : Dict) :
    Except PyExc Dict × σ :=
  match call with
  | (.ok result, s) => (.ok (returned result), s)
  | (.error e, s) => (if e.cls = .rpcError then .ok mock else .error e, s)

variable (client : CoreServiceClient σ)

def gradeUpdate (studentId courseId assignmentId grade : String) : Call σ Dict := fun s =>
  let message : Json := .str
    ("Grade updated to " ++ grade ++ " for student " ++ studentId ++ " in " ++ courseId)
  orMock (client.updateGrade studentId courseId semester grade s)
    (fun result =>
      [("success", .bool true), ("operation", .str "grade_update"), ("student_id", .str studentId),
        ("course_id", .str courseId), ("grade", .str grade), ("enrollment", result),
        ("message", message)])
    (mockFallback "grade_update"
      [("student_id", .str studentId), ("course_id", .str courseId),
        ("assignment_id", .str assignmentId), ("grade", .str grade), ("message", message)])

def enrollmentModify (studentId courseId action : String) : Call σ Dict := fun s =>
  let verb := if action = "add" then "enrolled in" else "dropped from"
  let message : Json := .str ("Student " ++ studentId ++ " " ++ verb ++ " " ++ courseId)
  let returned (result : Json) : Dict :=
    [("success", .bool true), ("operation", .str "enrollment_modify"),
      ("student_id", .str studentId), ("course_id", .str courseId), ("action", .str action),
      ("result", result), ("message", message)]
  let mock := mockFallback "enrollment_modify"
    [("student_id", .str studentId), ("course_id", .str courseId), ("action", .str action),
      ("message", message)]
  if action = "add" then
    orMock (client.enrollStudent studentId courseId semester s) returned mock
  else
    orMock (client.dropEnrollment studentId courseId semester s)
      (fun _ => returned (.obj [("status", .str "DROPPED")])) mock

/-- `hex` is `uuid.uuid4().hex[:6].upper()`. -/
def assignmentCreate (hex courseId title dueDate description : String) : Call σ Dict := fun s =>
  let message : Json := .str
    ("Assignment '" ++ title ++ "' created for " ++ courseId ++ ", due " ++ dueDate)
  orMock
    (client.createAssignment
      { assignmentId := courseId ++ "-" ++ hex, courseId, title, description, dueDate,
        maxPoints := 100 } s)
    (fun result =>
      [("success", .bool true), ("operation", .str "assignment_create"), ("assignment", result),
        ("message", message)])
    (mockFallback "assignment_create"
      [("course_id", .str courseId), ("title", .str title), ("due_date", .str dueDate),
        ("description", .str description), ("message", message)])

def runCall (hex : String) : WriteCall → Call σ Dict
  | .gradeUpdate studentId courseId assignmentId grade =>
      gradeUpdate client studentId courseId assignmentId grade
  | .enrollmentModify studentId courseId action => enrollmentModify client studentId courseId action
  | .assignmentCreate courseId title dueDate description =>
      assignmentCreate client hex courseId title dueDate description

def functions (s : σ) (hex : String) : Functions := fun call => (runCall client hex call s).1

end

end RealityAI.Model.ActionTools
