import RealityAI.Model.ActionAgent
import RealityAI.Model.ContentIsolation
import RealityAI.Model.QuerySources

/-!
# `agents/query_agent.py`: the standalone subgraph
-/

namespace RealityAI.Model.QueryAgent
open Python Schemas Safety State PlanningAgent ActionAgent

/-! ## The text of a result -/

def orElse (text fallback : String) : String := if text = "" then fallback else text

def joinLines (lines : List String) : String := "\n".intercalate lines

def formatEntry (e : TranscriptEntry) : String :=
  "  " ++ (if e.isPassed then "✓" else "✗") ++ " " ++ e.courseCode ++ "  grade=" ++ e.grade ++
    "  credits=" ++ toString e.credits ++ "  (" ++ e.term ++ ")"

def formatTranscript (t : StudentTranscript) : String :=
  if t.entries = [] then "No transcript entries on file."
  else joinLines (("Transcript for " ++ t.userId ++ " (" ++ toString t.totalCredits ++
    " credits earned):") :: t.entries.map formatEntry)

def pad (indent : Nat) : String := String.ofList (List.replicate (2 * indent) ' ')

mutual

def formatRequirementNode (indent : Nat) : RequirementNode → String
  | .node requirementId kind name pool need children =>
      match kind with
      | .leaf => pad indent ++ "- " ++ orElse name requirementId ++ ": need " ++ toString need ++
          " of [" ++ ", ".intercalate pool ++ "]"
      | .and => joinLines ((pad indent ++ "ALL OF (" ++ orElse name requirementId ++ "):") ::
          formatRequirementNodes (indent + 1) children)
      | .or => joinLines ((pad indent ++ "ANY OF (" ++ orElse name requirementId ++ "):") ::
          formatRequirementNodes (indent + 1) children)

def formatRequirementNodes (indent : Nat) : List RequirementNode → List String
  | [] => []
  | child :: children =>
      formatRequirementNode indent child :: formatRequirementNodes indent children

end

def formatProgram (d : DegreeProgram) : String :=
  let track := d.track.getD ""
  let track := if track = "" then "" else ", track=" ++ track
  "Degree program: " ++ d.major ++ track ++ ", cohort " ++ d.cohort ++ "\n" ++
    formatRequirementNode 0 d.root

def twoDigits (n : Nat) : String :=
  let ds := Nat.toDigits 10 n
  String.ofList (List.replicate (2 - ds.length) '0' ++ ds)

/-- `strftime('%H:%M')` -/
def formatTime (micros : Nat) : String :=
  let minutes := micros / 60000000
  twoDigits (minutes / 60) ++ ":" ++ twoDigits (minutes % 60)

def formatMeeting (m : MeetingTime) : String :=
  "/".intercalate (m.days.map Day.letter) ++ " " ++ formatTime m.start ++ "-" ++ formatTime m.«end»

def formatSection (c : CourseSection) : String :=
  let meets := orElse ("; ".intercalate (c.meetings.map formatMeeting)) "TBA"
  "  " ++ c.courseCode ++ " sec " ++ c.«section» ++ " (" ++ c.term ++ ") — " ++
    toString c.credits ++ "cr, " ++ orElse c.instructor "TBA" ++ ", meets " ++ meets

def formatSections : List CourseSection → String
  | [] => "No results found."
  | result@(_ :: _) => joinLines
      (("Found " ++ toString result.length ++ " section(s):") :: result.map formatSection)

abbrev RandomBytes := Fin ContentIsolation.nonceBytes → UInt8

def formatTypedResult (rt : Runtime) (random : RandomBytes) : SourceResult → String
  | .transcript t => formatTranscript t
  | .program d => formatProgram d
  | .sections cs => formatSections cs
  | .chunks cs => ContentIsolation.formatTypedResult rt random cs

/-! ## The nodes of the subgraph -/

/-- `QueryAgentInternalState`; a key that no node has written yet is `none`. -/
structure InternalState where
  userMessage : String
  selectedSource : Option Json := none
  sourceParams : Option Json := none
  queryType : Option Json := none
  rawTypedResult : Option SourceResult := none
  executionError : Option String := none
  responseText : Option String := none
  success : Option Bool := none

def InternalState.responded (s : InternalState) : Bool := s.responseText.getD "" != ""

def routeQuery (reply : Reply) (s : InternalState) : Except PyExc InternalState :=
  match reply.content with
  | .str raw =>
      match reply.parsed with
      | none => .ok { s with
          selectedSource := some (.str "")
          sourceParams := some (.obj [])
          queryType := some (.str "")
          responseText := some raw
          success := some true }
      | some (.obj decision) => .ok { s with
          selectedSource := some ((Dict.get? decision "source").getD (.str ""))
          sourceParams := some (((Dict.get? decision "params").getD (.obj [])).or (.obj []))
          queryType := some ((Dict.get? decision "query_type").getD (.str "")) }
      | some decision => .error decision.noGet
  | content => .error ⟨.typeError,
      "the JSON object must be str, bytes or bytearray, not " ++ content.typeName⟩

def querySources : List QuerySource := [.canvas, .degreeDb, .catalogDb, .syllabusRag]

/-- `QuerySource(name)`; every value that is no member raises the `ValueError` that is handled. -/
def sourceOf (name : Json) : Option QuerySource :=
  querySources.find? fun source => name.isStr (QuerySource.value source)

def paramsOf : Json → Except PyExc Params
  | .obj fields => .ok ((Dict.items fields).map fun entry => (entry.1, .json entry.2))
  | v => .error v.noGet

section
variable (b : Builtins) (t : ObjectTexts) (stores : DataStores) (random : RandomBytes)

def executeQueryTool (s : InternalState) : InternalState :=
  let sourceName := s.selectedSource.getD (.str "")
  if s.responded && !sourceName.truthy then s
  else
    let params := (s.sourceParams.getD (.obj [])).or (.obj [])
    match sourceOf sourceName with
    | none => { s with
        executionError := some ("Unknown source: " ++ b.str sourceName)
        success := some false
        responseText := some ("Unknown data source: " ++ b.str sourceName) }
    | some source =>
        match paramsOf params >>= sourceHandler b t stores source with
        | .ok typedResult => { s with rawTypedResult := some typedResult, success := some true }
        | .error e => { s with
            executionError := some e.text
            success := some false
            responseText := some ("Query failed: " ++ e.text) }

def formatQueryResponse (s : InternalState) : InternalState :=
  if s.responded then s
  else
    let text := s.rawTypedResult.elim "No results found." (formatTypedResult b.toRuntime random)
    { s with responseText := some text }

/-! ## The agent -/

structure QueryAgentOutput where
  response : String
  success : Bool
  selectedSource : String
  queryType : String

def queryOutput (final : InternalState) : Except PyExc QueryAgentOutput := do
  let selectedSource ← strField ((final.selectedSource.getD (.str "")).or (.str ""))
  let queryType ← strField ((final.queryType.getD (.str "")).or (.str ""))
  return { response := final.responseText.getD "", success := final.success.getD false,
           selectedSource, queryType }

def invokeQuerySubgraph (reply : Reply) (userMessage : String) : Except PyExc QueryAgentOutput := do
  let routed ← routeQuery reply { userMessage }
  queryOutput (formatQueryResponse b random (executeQueryTool b t stores routed))

/-- `user_id` and `session_id` are checked, and then not used. -/
def queryInput (state : AgentView) : Except PyExc String := do
  let userMessage ← strField ((state.messages.getLast?.map Message.content).getD (.str ""))
  let _ ← strField (state.userId.getD (.str ""))
  let _ ← strField (state.sessionId.getD (.str ""))
  return userMessage

def queryResult (output : QueryAgentOutput) : AgentResult where
  response := .str output.response
  toolCalls :=
    if output.selectedSource = "" then []
    else [{ toolName := "query/" ++ output.selectedSource, success := output.success,
            error := if output.success then none else some output.response }]

def runQueryAgent (reply : Except PyExc Reply) (state : AgentView) : Except PyExc AgentResult := do
  let userMessage ← queryInput state
  let output ← invokeQuerySubgraph b t stores random (← reply) userMessage
  return queryResult output

end

end RealityAI.Model.QueryAgent
