import RealityAI.Model.PlanningAgent
import RealityAI.Model.Retrieval
import RealityAI.Model.StepValues

/-!
# `agents/query_agent.py`: the data sources and the query step of a plan
-/

namespace RealityAI.Model.QueryAgent
open Library Python Schemas State PlanningAgent Retrieval

/-! ## The stores -/

structure DataStores where
  transcripts : List (String × StudentTranscript)
  degreePrograms : List ((String × Option String × String) × DegreeProgram)
  catalog : List CourseSection
  documents : DocumentStore

def mockTranscripts : List (String × StudentTranscript) :=
  [("u1", ⟨"u1",
      [⟨"CS101", "A", 3, "F24", true⟩, ⟨"CS201", "B+", 3, "S25", true⟩,
       ⟨"MATH200", "A-", 4, "F24", true⟩]⟩),
   ("u2", ⟨"u2", [⟨"CS101", "C", 3, "F24", true⟩, ⟨"ENG101", "A", 3, "F24", true⟩]⟩)]

def mockDegreePrograms : List ((String × Option String × String) × DegreeProgram) :=
  [(("CS", some "AI", "2024-2027"), ⟨"CS", some "AI", "2024-2027",
      .node "root" .and "" [] 0
        [.node "ai_electives" .leaf "AI track electives" ["CS401", "CS402", "CS403", "CS404"] 3 [],
         .node "math_foundation" .leaf "Math foundation" ["MATH200", "MATH210"] 1 []]⟩)]

def clock (hour minute : Nat) : Nat := (hour * 60 + minute) * 60000000

def mt (days : List Day) (h1 m1 h2 m2 : Nat) : MeetingTime := ⟨days, clock h1 m1, clock h2 m2⟩

def mockCatalog : List CourseSection :=
  [⟨"CS101", "001", "F25", 3, "Dr. Smith", [mt [.M, .W, .F] 10 0 10 50], []⟩,
   ⟨"CS201", "001", "F25", 3, "Dr. Johnson", [mt [.T, .R] 14 0 15 15], []⟩,
   ⟨"MATH200", "001", "F25", 4, "Dr. Lee", [mt [.M, .W] 13 0 14 15], []⟩,
   ⟨"CS401", "001", "S26", 3, "Dr. Lee", [mt [.T, .R] 11 40 12 55], []⟩,
   ⟨"CS402", "001", "S26", 3, "Dr. Park", [mt [.F] 10 0 12 30], []⟩,
   ⟨"CS403", "001", "S26", 3, "Dr. Chen", [mt [.M, .W] 13 0 14 15], []⟩,
   ⟨"CS404", "001", "S26", 3, "Dr. Singh", [mt [.T, .R] 14 30 15 45], []⟩,
   ⟨"MATH210", "001", "S26", 4, "Dr. Davis", [mt [.M, .W, .F] 9 0 9 50], []⟩]

def mockStores : DataStores := ⟨mockTranscripts, mockDegreePrograms, mockCatalog, mockStore⟩

/-! ## Query handlers -/

inductive SourceResult where
  | transcript (t : StudentTranscript)
  | program (d : DegreeProgram)
  | sections (cs : List CourseSection)
  | chunks (cs : List SyllabusChunk)

def SourceResult.value : SourceResult → StepValue
  | .transcript t => .transcript t
  | .program d => .program d
  | .sections cs => .sections cs
  | .chunks cs => .chunks cs

section
variable (b : Builtins) (t : ObjectTexts) (stores : DataStores)

def queryCanvas (params : Params) : Except PyExc StudentTranscript :=
  let userId := params.get "user_id"
  if !userId.truthy then .error ⟨.valueError, "canvas query requires user_id"⟩
  else do
    t.hash userId
    match userId with
    | .json (.str userId) => return ((stores.transcripts.lookup userId).getD ⟨userId, []⟩)
    -- no key of the store, and no valid `user_id` of an empty transcript
    | _ => .error ⟨.validationError, "Input should be a valid string"⟩

def programKey (major track cohort : StepValue) : Option (String × Option String × String) :=
  match major, track, cohort with
  | .json (.str major), .json (.str track), .json (.str cohort) => some (major, some track, cohort)
  | .json (.str major), .json .null, .json (.str cohort) => some (major, none, cohort)
  | _, _, _ => none

def queryDegreeDb (params : Params) : Except PyExc DegreeProgram :=
  let major := params.get "major"
  let track := params.get "track"
  let cohort := params.get "cohort"
  if !major.truthy || !cohort.truthy then
    .error ⟨.valueError, "degree_db query requires major + cohort"⟩
  else do
    t.hash major
    t.hash track
    t.hash cohort
    match (programKey major track cohort).bind fun key => stores.degreePrograms.lookup key with
    | some program => return program
    | none =>
        let key := ", ".intercalate ([major, track, cohort].map (t.text b.toRuntime))
        .error ⟨.keyError, b.reprStr ("no degree program for (" ++ key ++ ")")⟩

def ofTerm (term : StepValue) (sections : List CourseSection) : List CourseSection :=
  if term.truthy then sections.filter fun s => term.isStr s.term else sections

def ofCourses (courseCodes : StepValue) (sections : List CourseSection) :
    Except PyExc (List CourseSection) :=
  if courseCodes.truthy then do
    let wanted ← t.stringSet courseCodes
    return sections.filter fun s => s.courseCode ∈ wanted
  else .ok sections

def offDays (daysExcluded : StepValue) (sections : List CourseSection) :
    Except PyExc (List CourseSection) :=
  -- `has_meeting_on_days` builds the set, once for each section
  if daysExcluded.truthy && !sections.isEmpty then do
    let excluded ← t.stringSet daysExcluded
    return sections.filter fun s => !s.hasMeetingOnDays excluded
  else .ok sections

def queryCatalogDb (params : Params) : Except PyExc (List CourseSection) := do
  let sections := ofTerm (params.get "term") stores.catalog
  let sections ← ofCourses t (params.get "course_codes") sections
  offDays t ((params.get "days_excluded").or (.json (.arr []))) sections

/-- `by_id`: the best score of each document, with the document that has it. -/
def keepBest (byId : List (String × Document)) (d : Document) : List (String × Document) :=
  upsert d.docId (fun old => old.elim d fun best => if best.score < d.score then d else best) byId

def syllabusQueries (params : Params) (courseId topic : StepValue) : Except PyExc (List String) := do
  let default := b.strip
    (t.text b.toRuntime courseId ++ " syllabus " ++ t.text b.toRuntime topic)
  let primary := (params.get "_semantic_query").or (.json (.str default))
  let expansion ← t.elements ((params.get "_query_expansion").or (.json (.arr [])))
  -- `query.lower()` is the first thing that a retrieval does
  let primary ← t.asText "lower" primary
  let expansion ← expansion.mapM (Element.asText "lower")
  return primary :: expansion

/-- `course_id.upper() if course_id else ""` -/
def upperCourse (courseId : StepValue) : Except PyExc String :=
  if courseId.truthy then b.upper <$> t.asText "upper" courseId else .ok ""

def syllabusChunks (courseId : StepValue) (course : String) (queries : List String) :
    List SyllabusChunk :=
  let courseFilter := if courseId.truthy then some course else none
  let retrieved := queries.flatMap fun q =>
    hybridRetrieve b stores.documents q courseFilter none 10 5
  let deduped := sortedDown Document.score ((retrieved.foldl keepBest []).map Prod.snd)
  deduped.map fun d =>
    { chunkId := d.docId, courseId := course, content := d.content, score := d.score }

def querySyllabusRag (params : Params) : Except PyExc (List SyllabusChunk) := do
  let courseId := (params.get? "course_id").getD (.json (.str ""))
  let topic := (params.get? "topic").getD (.json (.str ""))
  let course ← upperCourse b t courseId
  let queries ← syllabusQueries b t params courseId topic
  return syllabusChunks b stores courseId course queries

def sourceHandler (source : QuerySource) (params : Params) : Except PyExc SourceResult :=
  match source with
  | .canvas => .transcript <$> queryCanvas t stores params
  | .degreeDb => .program <$> queryDegreeDb b t stores params
  | .catalogDb => .sections <$> queryCatalogDb t stores params
  | .syllabusRag => .chunks <$> querySyllabusRag b t stores params

/-! ## The query step -/

def resolveStepRef (outputs : StepOutputs) (v : Json) : Eff PyExc Int StepValue :=
  match refText? v with
  | none => pure (.json v)
  | some text =>
      match b.int text with
      | .error _ => pure (.json v)
      | .ok ref => lookUp outputs ref
          ⟨.keyError, b.reprStr ("step ref " ++ b.str v ++ " not yet computed")⟩

def resolveStepRefs (params : Dict) (outputs : StepOutputs) : Eff PyExc Int Params :=
  resolveWith (resolveStepRef b outputs) params.items

def reformulated (step : PlanStep) (params : Params) : Params :=
  if step.querySource = some .syllabusRag then
    let params := step.semanticQuery.elim params fun q => params.set "_semantic_query" (.json (.str q))
    step.queryExpansion.elim params fun qs =>
      params.set "_query_expansion" (.json (.arr (qs.map .str)))
  else params

def runQueryStep (step : PlanStep) (outputs : StepOutputs) : Eff PyExc Int StepValue :=
  match step.querySource, step.queryParams with
  | some source, some queryParams => do
      let params ← resolveStepRefs b queryParams outputs
      Eff.lift (SourceResult.value <$> sourceHandler b t stores source (reformulated step params))
  | _, _ => Eff.raise ⟨.valueError, step.handlerError "missing query_source/params"⟩

end

end RealityAI.Model.QueryAgent
