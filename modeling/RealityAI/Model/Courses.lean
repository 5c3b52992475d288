import RealityAI.Library.Separated
import RealityAI.Model.CoreService
import Mathlib.Logic.Function.Basic

/-!
# `CourseService.java` and `CourseGrpcService.java`

A string of an entity may be null where the conversion asks for it; a string of a message never is.
-/

namespace RealityAI.Model.Courses
open Library CoreService

/-- The message of `course.proto`. -/
structure Course where
  courseId : String
  name : String := ""
  description : String := ""
  instructor : String := ""
  schedule : String := ""
  location : String := ""
  credits : Int := 0
  semester : String := ""
  prerequisites : List String := []
  deriving DecidableEq, Repr

structure CourseEntity where
  courseId : String
  name : String
  description : Option String := none
  instructor : Option String
  schedule : Option String := none
  location : Option String := none
  credits : Int := 0
  semester : Option String := none
  prerequisites : Option String := none
  deriving DecidableEq, Repr

/-- `String.split(",")` -/
def splitCommas (text : String) : List String :=
  (splitFields ',' text.toList).map String.ofList

def toProto (entity : CourseEntity) : Course where
  courseId := entity.courseId
  name := entity.name
  credits := entity.credits
  description := entity.description.getD ""
  instructor := entity.instructor.getD ""
  schedule := entity.schedule.getD ""
  location := entity.location.getD ""
  semester := entity.semester.getD ""
  prerequisites :=
    match entity.prerequisites with
    | none => []
    | some prerequisites => if prerequisites = "" then [] else splitCommas prerequisites

def fromProto (proto : Course) : CourseEntity where
  courseId := proto.courseId
  name := proto.name
  instructor := some proto.instructor
  description := some proto.description
  schedule := some proto.schedule
  location := some proto.location
  credits := proto.credits
  semester := some proto.semester
  prerequisites :=
    if proto.prerequisites = [] then none else some (",".intercalate proto.prerequisites)

/-- The entity of each id, as `save` has stored it. -/
abbrev CourseTable := String → Option CourseEntity

def grpcGetCourse (courses : CourseTable) (courseId : String) : Except Status Course :=
  match courses courseId with
  | some entity => .ok (toProto entity)
  | none => .error ⟨.notFound, some ("Course not found: " ++ courseId)⟩

def grpcUpdateCourse (courses : CourseTable) (proto : Course) :
    Except Status (Course × CourseTable) :=
  if proto.courseId = "" then .error ⟨.invalidArgument, some "course_id is required"⟩
  else
    let entity := fromProto proto
    .ok (toProto entity, Function.update courses entity.courseId (some entity))

end RealityAI.Model.Courses
