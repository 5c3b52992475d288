import RealityAI.Library.Keyed
import RealityAI.Model.Courses

/-!
# The calls of the core service

`CourseGrpcService.java`, `AssignmentGrpcService.java` and `StudentGrpcService.java` over their tables.
The order in which a table lists its rows is left open by the queries; here it is that of the last
`save`. `GetStudent` is left out.
-/

namespace RealityAI.Model.CoreApi
open Library CoreService Courses

structure Tables where
  db : Database
  courses : List CourseEntity

structure Schema extends Columns where
  takesCourse : CourseEntity → Bool

def Schema.sql : Schema where
  toColumns := .schema
  takesCourse c := c.courseId.length ≤ 20 && c.name.length ≤ 255 &&
    c.description.all (·.length ≤ 1000) && c.instructor.any (·.length ≤ 255) &&
    c.schedule.all (·.length ≤ 255) && c.location.all (·.length ≤ 255) &&
    c.semester.all (·.length ≤ 20) && c.prerequisites.all (·.length ≤ 500)

inductive ApiCall where
  | getCourse (courseId : String)
  | listCourses (semester : String)
  | updateCourse (course : Course)
  | getAssignment (assignmentId : String)
  | listAssignments (courseId : String)
  | createAssignment (assignment : AssignmentEntity)
  | student (call : StudentCall)

inductive ApiAnswer where
  | course (answer : Except Status Course)
  | courses (answer : List Course)
  | assignment (answer : Except Status AssignmentEntity)
  | assignments (answer : List AssignmentEntity)
  | enrollment (answer : Except Status (Option EnrollmentEntity))

/-! ## `CourseService.java` -/

def getCourse (t : Tables) (courseId : String) : Option CourseEntity :=
  rowOf CourseEntity.courseId t.courses courseId

def listCourses (t : Tables) (semester : String) : List CourseEntity :=
  if semester ≠ "" then t.courses.filter fun c => c.semester = some semester else t.courses

def updateCourse (t : Tables) (course : CourseEntity) : CourseEntity × Tables :=
  (course, { t with courses := saveRow CourseEntity.courseId t.courses course })

/-! ## `AssignmentService.java` -/

def getAssignment (t : Tables) (assignmentId : String) : Option AssignmentEntity :=
  rowOf AssignmentEntity.assignmentId t.db.assignments assignmentId

def listAssignments (t : Tables) (courseId : String) : List AssignmentEntity :=
  t.db.assignments.filter fun a => a.courseId = courseId

def apiGetCourse (t : Tables) (courseId : String) : Except Status Course :=
  grpcGetCourse (getCourse t) courseId

def apiListCourses (t : Tables) (semester : String) : List Course :=
  (listCourses t semester).map toProto

def apiGetAssignment (t : Tables) (assignmentId : String) : Except Status AssignmentEntity :=
  match getAssignment t assignmentId with
  | some entity => .ok entity
  | none => .error ⟨.notFound, some ("Assignment not found: " ++ assignmentId)⟩

section
variable (schema : Schema)

def apiUpdateCourse (t : Tables) (proto : Course) : Except Status Course × Tables :=
  if proto.courseId = "" then (.error ⟨.invalidArgument, some "course_id is required"⟩, t)
  else
    let entity := fromProto proto
    if schema.takesCourse entity then
      let (saved, t) := updateCourse t entity
      (.ok (toProto saved), t)
    else (.error (statusOf .dataIntegrityViolation), t)

def settled {α β : Type} (t : Tables) (reply : α → β) :
    Except Status (α × Database) → Except Status β × Tables
  | .ok (row, db) => (.ok (reply row), { t with db })
  | .error status => (.error status, t)

def apiStudent (t : Tables) : StudentCall → Except Status (Option EnrollmentEntity) × Tables
  | .enrollStudent studentId courseId semester =>
      settled t some (grpcEnrollStudent schema.toColumns t.db studentId courseId semester)
  | .dropEnrollment studentId courseId semester =>
      settled t (fun _ => none)
        ((grpcDropEnrollment t.db studentId courseId semester).map fun db => ((), db))
  | .updateGrade studentId courseId semester grade =>
      settled t some (grpcUpdateGrade schema.toColumns t.db studentId courseId semester grade)

def answerCall (t : Tables) : ApiCall → ApiAnswer × Tables
  | .getCourse courseId => (.course (apiGetCourse t courseId), t)
  | .listCourses semester => (.courses (apiListCourses t semester), t)
  | .updateCourse course => (apiUpdateCourse schema t course).map .course id
  | .getAssignment assignmentId => (.assignment (apiGetAssignment t assignmentId), t)
  | .listAssignments courseId => (.assignments (listAssignments t courseId), t)
  | .createAssignment assignment =>
      (settled t id (grpcCreateAssignment schema.toColumns t.db assignment)).map .assignment id
  | .student call => (apiStudent schema t call).map .enrollment id

abbrev Exchange := ApiCall × ApiAnswer

def coreApi : Machine Tables ApiCall Exchange :=
  ⟨fun t call => ((answerCall schema t call).2, [(call, (answerCall schema t call).1)])⟩

end

end RealityAI.Model.CoreApi
