import RealityAI.Model.QueryOutputs
import RealityAI.Python.Builtins

/-!
# `reasoning/gap_analysis.py` and `reasoning/solver.py`

Ranks are exact.
-/

namespace RealityAI.Model.Reasoning
open Python Schemas

def leafGap (requirementId name : String) (pool : List String) (need : Int)
    (already : List String) : UnsatisfiedRequirement where
  requirementId := requirementId
  name := if name = "" then requirementId else name
  pool := pool
  need := need - already.length
  alreadySatisfiedBy := already

mutual

/-- Whether the subtree is satisfied, and what it appends to `out`. -/
def walk (completed : List String) (parentSatisfied : Bool) :
    RequirementNode → Bool × List UnsatisfiedRequirement
  | .node requirementId kind name pool need children =>
      match kind with
      | .leaf =>
          let already := pool.filter fun c => c ∈ completed
          if need ≤ already.length then (true, [])
          else (false, if parentSatisfied then []
            else [leafGap requirementId name pool need already])
      | .and =>
          let (results, out) := walkAll completed parentSatisfied children
          (results.all id, out)
      | .or =>
          let (results, out) := walkAll completed parentSatisfied children
          (results.any id, out)

def walkAll (completed : List String) (parentSatisfied : Bool) :
    List RequirementNode → List Bool × List UnsatisfiedRequirement
  | [] => ([], [])
  | child :: children =>
      let (result, out) := walk completed parentSatisfied child
      let (results, rest) := walkAll completed parentSatisfied children
      (result :: results, out ++ rest)

end

def computeUnsatisfied (program : DegreeProgram) (transcript : StudentTranscript) :
    List UnsatisfiedRequirement :=
  (walk transcript.completed false program.root).2

def offsetClash : PyExc := ⟨.typeError, "can't compare offset-naive and offset-aware times"⟩

/-- `m.start < lo or m.end > hi` -/
def outsideRange (lo hi : ClockTime) (m : MeetingTime) : Except PyExc Bool :=
  if lo.aware then .error offsetClash
  else if m.start < lo.micros then .ok true
  else if hi.aware then .error offsetClash
  else .ok (hi.micros < m.«end»)

def withinRange (lo hi : ClockTime) : List MeetingTime → Except PyExc Bool
  | [] => .ok true
  | m :: ms => do
      if ← outsideRange lo hi m then return false
      else withinRange lo hi ms

def meetsHardConstraints (s : CourseSection) (completed : List String)
    (constraints : ScheduleConstraints) : Except PyExc Bool :=
  if s.hasMeetingOnDays constraints.daysExcluded then .ok false
  else if s.prereqs.any fun p => p ∉ completed then .ok false
  else match constraints.timeRange with
    | none => .ok true
    | some (lo, hi) => withinRange lo hi s.meetings

def meetingsConflict : List MeetingTime → Bool
  | [] => false
  | m :: ms => ms.any m.overlaps || meetingsConflict ms

def hasTimeConflict (combo : List CourseSection) : Bool :=
  meetingsConflict (combo.flatMap fun c => c.meetings)

def meetsCreditBounds (o : ScheduleOption) (constraints : ScheduleConstraints) : Bool :=
  (constraints.minCredits.all fun least => least ≤ o.totalCredits) &&
    constraints.maxCredits.all fun most => o.totalCredits ≤ most

def rank (options : List ScheduleOption) : List ScheduleOption :=
  sortedDown ScheduleOption.rankScore (options.map fun o =>
    { o with rankScore := o.courses.length + o.totalCredits / 100 })

/-- `itertools.combinations`, in the order of the positions. -/
def combinations {α : Type} : Nat → List α → List (List α)
  | 0, _ => [[]]
  | _ + 1, [] => []
  | n + 1, x :: xs => (combinations n xs).map (x :: ·) ++ combinations (n + 1) xs

structure SolveState where
  results : List ScheduleOption
  seenCombos : List (List String)

def considerCombo (constraints : ScheduleConstraints) (k : SolveState)
    (combo : List CourseSection) : SolveState :=
  let key := sorted (combo.map fun c => c.courseCode)
  if key ∈ k.seenCombos then k
  else
    let seenCombos := key :: k.seenCombos
    let o := ScheduleOption.fromCourses combo
    if hasTimeConflict combo || !meetsCreditBounds o constraints then { k with seenCombos }
    else ⟨k.results ++ [o], seenCombos⟩

def sizes (constraints : ScheduleConstraints) : List Int :=
  (List.range (constraints.maxCourses + 1 - constraints.minCourses).toNat).map fun i : Nat =>
    constraints.minCourses + i

def searchSizes (constraints : ScheduleConstraints) (valid : List CourseSection) :
    List Int → SolveState → Except PyExc SolveState
  | [], k => .ok k
  | size :: rest, k =>
      if size < 0 then .error ⟨.valueError, "r must be non-negative"⟩
      else searchSizes constraints valid rest
        ((combinations size.toNat valid).foldl (considerCombo constraints) k)

def validSections (completed : List String) (constraints : ScheduleConstraints) :
    List CourseSection → Except PyExc (List CourseSection)
  | [] => .ok []
  | c :: cs => do
      let meets ← meetsHardConstraints c completed constraints
      let rest ← validSections completed constraints cs
      return if meets then c :: rest else rest

def solve (candidates : List CourseSection) (completed : List String)
    (constraints : ScheduleConstraints) : Except PyExc (List ScheduleOption) := do
  let valid ← validSections completed constraints candidates
  let found ← searchSizes constraints valid (sizes constraints) ⟨[], []⟩
  return rank found.results

end RealityAI.Model.Reasoning
