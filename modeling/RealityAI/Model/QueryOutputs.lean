import RealityAI.Python.Value
import Mathlib.Algebra.Ring.Int.Defs
import Mathlib.Data.Rat.Defs

/-!
# `schemas/query_outputs.py` and `schemas/solver.py`
-/

namespace RealityAI.Model.Schemas
open Python

structure TranscriptEntry where
  courseCode : String
  grade : String
  credits : Int
  term : String
  isPassed : Bool
  deriving DecidableEq, Repr

structure StudentTranscript where
  userId : String
  entries : List TranscriptEntry
  deriving DecidableEq, Repr

def StudentTranscript.completed (t : StudentTranscript) : List String :=
  ((t.entries.filter fun e => e.isPassed).map fun e => e.courseCode).dedup

def StudentTranscript.totalCredits (t : StudentTranscript) : Int :=
  ((t.entries.filter fun e => e.isPassed).map fun e => e.credits).sum

inductive NodeKind where
  | leaf | and | or
  deriving DecidableEq, Repr

inductive RequirementNode where
  | node (requirementId : String) (kind : NodeKind) (name : String) (pool : List String)
      (need : Int) (children : List RequirementNode)
  deriving Repr

structure DegreeProgram where
  major : String
  track : Option String
  cohort : String
  root : RequirementNode
  deriving Repr

structure UnsatisfiedRequirement where
  requirementId : String
  name : String
  pool : List String
  need : Int
  alreadySatisfiedBy : List String
  deriving DecidableEq, Repr

inductive Day where
  | M | T | W | R | F | S | U
  deriving DecidableEq, Repr

def Day.letter : Day → String
  | .M => "M"
  | .T => "T"
  | .W => "W"
  | .R => "R"
  | .F => "F"
  | .S => "S"
  | .U => "U"

/-- Times of day count microseconds from midnight. -/
structure MeetingTime where
  days : List Day
  start : Nat
  «end» : Nat
  deriving DecidableEq, Repr

def MeetingTime.overlaps (self other : MeetingTime) : Bool :=
  (self.days.any fun d => d ∈ other.days) &&
    (self.start < other.«end» && other.start < self.«end»)

structure CourseSection where
  courseCode : String
  «section» : String
  term : String
  credits : Int
  instructor : String
  meetings : List MeetingTime
  prereqs : List String
  deriving DecidableEq, Repr

def CourseSection.hasMeetingOnDays (s : CourseSection) (excluded : List String) : Bool :=
  s.meetings.any fun m => m.days.any fun d => d.letter ∈ excluded

structure SyllabusChunk where
  chunkId : String
  courseId : String
  content : String
  score : Rat
  source : String := "syllabus_rag"
  deriving DecidableEq, Repr

structure ScheduleOption where
  courses : List CourseSection
  totalCredits : Int
  rankScore : Rat := 0
  deriving DecidableEq, Repr

def ScheduleOption.fromCourses (courses : List CourseSection) : ScheduleOption where
  courses := courses
  totalCredits := (courses.map fun c => c.credits).sum

/-- A time of a constraint; the meetings of a section have times without an offset. -/
structure ClockTime where
  micros : Nat
  aware : Bool := false
  deriving DecidableEq, Repr

structure ScheduleConstraints where
  daysExcluded : List String := []
  timeRange : Option (ClockTime × ClockTime) := none
  minCourses : Int := 3
  maxCourses : Int := 5
  minCredits : Option Int := none
  maxCredits : Option Int := none
  deriving DecidableEq, Repr

end RealityAI.Model.Schemas
