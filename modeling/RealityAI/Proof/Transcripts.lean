import RealityAI.Proof.Plan.Agent
import RealityAI.Proof.Query

/-!
# Whose transcripts a student's run depends on
-/

namespace RealityAI.Proof.Transcripts
open Library Python Model.Schemas Model.State Model.Safety Model.PlanningAgent Model.ActionAgent
open Model.ActionTools Model.QueryAgent Model.PlanSteps Model.PlanAgent Plan InnerSafety Query

def studentView (userId sessionId text : String) (history : List Message)
    (normalized : Option Json) : AgentView where
  messages := history ++ [⟨.str text⟩]
  userId := some (.str userId)
  sessionId := some (.str sessionId)
  userRole := some (.str "student")
  userQueryNormalized := normalized

abbrev TranscriptStore := List (String × StudentTranscript)

def storesWith (stores : DataStores) (transcripts : TranscriptStore) : DataStores :=
  { stores with transcripts }

def worldWith (w : StepWorld) (transcripts : TranscriptStore) : StepWorld :=
  { w with stores := storesWith w.stores transcripts }

/-- Nothing that is delivered depends on another transcript than that of `userId`. -/
def Isolated {α : Type} (userId : String) (transcripts : TranscriptStore) (run : TranscriptStore → α) : Prop :=
  ∀ others : TranscriptStore, others.lookup userId = transcripts.lookup userId →
    run others = run transcripts

/-! ## The canvas handler -/

def transcriptOf (transcripts : TranscriptStore) (userId : String) : StudentTranscript :=
  (transcripts.lookup userId).getD ⟨userId, []⟩

section
variable {t : ObjectTexts} {stores : DataStores} {params : Params} {userId : String}

theorem queryCanvas_reads (some : userId ≠ "") (named : params.get "user_id" = .json (.str userId)) :
    queryCanvas t stores params = .ok (transcriptOf stores.transcripts userId) := by
  simp [queryCanvas, named, StepValue.truthy, Json.truthy, some, ObjectTexts.hash, Json.hashable,
    transcriptOf, pure, Except.pure]

theorem queryCanvas_congr {others : TranscriptStore}
    (agree : ∀ userId, userId ≠ "" → params.get "user_id" = .json (.str userId) →
      others.lookup userId = stores.transcripts.lookup userId) :
    queryCanvas t (storesWith stores others) params = queryCanvas t stores params := by
  unfold queryCanvas
  dsimp only
  split
  · rfl
  · rename_i present
    cases t.hash (params.get "user_id") with
    | error e => rfl
    | ok _ =>
        simp only [ok_bind]
        split
        · rename_i userId named
          rw [storesWith, agree userId _ named]
          intro empty
          simp [named, empty, StepValue.truthy, Json.truthy] at present
        · rfl

end

def altered (transcript : StudentTranscript) : StudentTranscript :=
  if transcript.entries = [] then ⟨transcript.userId, [⟨"", "", 0, "", false⟩]⟩
  else ⟨transcript.userId, []⟩

theorem altered_ne (transcript : StudentTranscript) : altered transcript ≠ transcript := by
  obtain ⟨userId, entries⟩ := transcript
  cases entries <;> simp [altered]

theorem formatTranscript_head (transcript : StudentTranscript) (present : transcript.entries ≠ []) :
    (formatTranscript transcript).toList.head? = some 'T' := by
  rw [formatTranscript, if_neg present, joinLines, ContentIsolation.toList_lines]
  simp

theorem formatTranscript_altered (transcript : StudentTranscript) :
    formatTranscript (altered transcript) ≠ formatTranscript transcript := by
  intro same
  have heads : (formatTranscript (altered transcript)).toList.head? =
      (formatTranscript transcript).toList.head? := by rw [same]
  by_cases empty : transcript.entries = []
  · rw [formatTranscript_head (altered transcript) (by simp [altered, empty]), formatTranscript,
      if_pos empty] at heads
    simp at heads
  · rw [formatTranscript_head transcript empty, formatTranscript,
      if_pos (by simp [altered, empty])] at heads
    simp at heads

def alter (transcripts : TranscriptStore) (userId : String) : TranscriptStore :=
  (userId, altered (transcriptOf transcripts userId)) :: transcripts

theorem alter_other {transcripts : TranscriptStore} {userId other : String} (differ : other ≠ userId) :
    (alter transcripts userId).lookup other = transcripts.lookup other := by
  have miss : (other == userId) = false := beq_eq_false_iff_ne.mpr differ
  simp [alter, List.lookup_cons, miss]

theorem alter_same (transcripts : TranscriptStore) (userId : String) :
    transcriptOf (alter transcripts userId) userId = altered (transcriptOf transcripts userId) := by
  simp [alter, transcriptOf]

/-! ## The reply of the query agent -/

structure QueryReads (loads : Loads) (userId : String) : Prop where
  asked : ∃ decision fields, loads = .value (.obj decision) ∧
    sourceField decision = .str "canvas" ∧ paramsField decision = .obj fields ∧
    Dict.get fields "user_id" = .str userId ∧ FalsyOrText (queryTypeField decision)
  given : userId ≠ ""

section
variable (b : Builtins) (t : ObjectTexts) (stores : DataStores) (random : RandomBytes)

def executed (s : Model.QueryAgent.InternalState) (outcome : Except PyExc SourceResult) :
    Model.QueryAgent.InternalState :=
  match outcome with
  | .ok typedResult => { s with rawTypedResult := some typedResult, success := some true }
  | .error e => { s with
      executionError := some e.text
      success := some false
      responseText := some ("Query failed: " ++ e.text) }

theorem executeQueryTool_routed (text : String) (decision : Dict) {source : QuerySource}
    (named : sourceOf (sourceField decision) = some source) :
    executeQueryTool b t stores (routed text decision) =
      executed (routed text decision)
        (paramsOf (paramsField decision) >>= sourceHandler b t stores source) := by
  have silent : (routed text decision).responded = false := rfl
  have source' : (routed text decision).selectedSource = some (sourceField decision) := rfl
  have params : ((routed text decision).sourceParams.getD (.obj [])).or (.obj []) =
      paramsField decision := or_or _ _
  unfold executeQueryTool
  simp only [silent, source', params, Option.getD_some, named, Bool.false_and, Bool.false_eq_true,
    if_false]
  rfl

theorem sourceOf_canvas {v : Json} (named : sourceOf v = some .canvas) : v = .str "canvas" := by
  have hit := List.find?_some named
  exact isStr_iff.mp hit

theorem sourceHandler_canvas_reads {fields : Dict} {userId : String} (given : userId ≠ "")
    (named : Dict.get fields "user_id" = .str userId) :
    (paramsOf (.obj fields) >>= sourceHandler b t stores .canvas) =
      .ok (.transcript (transcriptOf stores.transcripts userId)) := by
  rw [paramsOf, ok_bind, sourceHandler, queryCanvas_reads given]
  · rfl
  · rw [params_get, named]

theorem sourceHandler_congr {others : TranscriptStore} {source : QuerySource} {params : Json}
    (agree : source = .canvas → ∀ userId fields, params = .obj fields → userId ≠ "" →
      Dict.get fields "user_id" = .str userId →
      others.lookup userId = stores.transcripts.lookup userId) :
    (paramsOf params >>= sourceHandler b t (storesWith stores others) source) =
      (paramsOf params >>= sourceHandler b t stores source) := by
  cases params with
  | obj fields =>
      rw [paramsOf, ok_bind, ok_bind]
      cases source with
      | canvas =>
          rw [sourceHandler, sourceHandler, queryCanvas_congr]
          intro userId given named
          rw [params_get] at named
          exact agree rfl userId fields rfl given (StepValue.json.inj named)
      | degreeDb => rfl
      | catalogDb => rfl
      | syllabusRag => rfl
  | _ => rfl

theorem executeQueryTool_congr {others : TranscriptStore} (text : String) (decision : Dict)
    (agree : sourceField decision = .str "canvas" → ∀ userId fields,
      paramsField decision = .obj fields → userId ≠ "" → Dict.get fields "user_id" = .str userId →
      others.lookup userId = stores.transcripts.lookup userId) :
    executeQueryTool b t (storesWith stores others) (routed text decision) =
      executeQueryTool b t stores (routed text decision) := by
  cases named : sourceOf (sourceField decision) with
  | none =>
      have unknown : sourceOf ((routed text decision).selectedSource.getD (.str "")) = none := named
      unfold executeQueryTool
      simp only [unknown]
  | some source =>
      rw [executeQueryTool_routed b t _ text decision named,
        executeQueryTool_routed b t _ text decision named, sourceHandler_congr]
      intro canvas
      subst canvas
      exact agree (sourceOf_canvas named)

variable (userId sessionId text content : String) (history : List Message)
variable (normalized : Option Json) (loads : Loads)

theorem queryInput_student : queryInput (studentView userId sessionId text history normalized) =
    .ok text := by
  simp [queryInput, studentView, strField]

theorem query_congr {others : TranscriptStore}
    (agree : ∀ userId, QueryReads loads userId →
      others.lookup userId = stores.transcripts.lookup userId) :
    let state := studentView userId sessionId text history normalized
    runQueryAgent b t (storesWith stores others) random (Loads.reply content loads) state =
      runQueryAgent b t stores random (Loads.reply content loads) state := by
  intro state
  have known : queryInput state = .ok text :=
    queryInput_student userId sessionId text history normalized
  have raises {reply : Except PyExc Reply} {e : PyExc}
      (failed : (reply >>= fun reply => routeQuery reply { userMessage := text }) = .error e) :
      runQueryAgent b t (storesWith stores others) random reply state =
        runQueryAgent b t stores random reply state := by
    rw [runQueryAgent_raises b t _ random known failed, runQueryAgent_raises b t _ random known failed]
  cases loads with
  | raises e => exact raises rfl
  | decodeError =>
      obtain ⟨result, same⟩ := runQueryAgent_text b t random known
      rw [same, same]
  | value v =>
      cases v with
      | obj decision =>
          rw [runQueryAgent_object b t _ random known, runQueryAgent_object b t _ random known]
          cases queryType : strField ((queryTypeField decision).or (.str "")) with
          | error e => cases strField ((sourceField decision).or (.str "")) <;> rfl
          | ok queryType' =>
              have reported : FalsyOrText (queryTypeField decision) :=
                (strField_or_returns_iff _).mp ⟨queryType', queryType⟩
              rw [answered, executeQueryTool_congr b t stores text decision, answered]
              intro source userId fields params given named
              exact agree userId ⟨⟨decision, fields, rfl, source, params, named, reported⟩, given⟩
      | _ => exact raises rfl

def canvasCall : ToolCall := { toolName := "query/canvas" }

theorem query_reads {owner : String} (reads : QueryReads loads owner) :
    runQueryAgent b t stores random (Loads.reply content loads)
        (studentView userId sessionId text history normalized) =
      .ok ⟨.str (formatTranscript (transcriptOf stores.transcripts owner)), [canvasCall]⟩ := by
  obtain ⟨decision, fields, same, source, params, named, reported⟩ := reads.asked
  subst same
  have canvas : sourceOf (sourceField decision) = some .canvas := by
    rw [source]
    rfl
  have told : answered b t stores random (routed text decision) =
      { routed text decision with
        rawTypedResult := some (.transcript (transcriptOf stores.transcripts owner))
        success := some true
        responseText := some (formatTranscript (transcriptOf stores.transcripts owner)) } := by
    rw [answered, executeQueryTool_routed b t stores text decision canvas, params,
      sourceHandler_canvas_reads b t stores reads.given named]
    rfl
  obtain ⟨queryType, typed⟩ := (strField_or_returns_iff _).mpr reported
  rw [runQueryAgent_object b t stores random
    (queryInput_student userId sessionId text history normalized), source, told, typed]
  rfl

theorem query_isolated_iff :
    Isolated userId stores.transcripts (fun others =>
        runQueryAgent b t (storesWith stores others) random (Loads.reply content loads)
          (studentView userId sessionId text history normalized)) ↔
      ∀ owner, QueryReads loads owner → owner = userId := by
  constructor
  · intro isolated owner reads
    by_contra other
    have same := isolated (alter stores.transcripts owner) (alter_other (Ne.symm other))
    dsimp only at same
    rw [query_reads b t _ random userId sessionId text content history normalized loads reads,
      query_reads b t _ random userId sessionId text content history normalized loads reads] at same
    have texts := congrArg AgentResult.response (Except.ok.inj same)
    rw [storesWith, storesWith, alter_same] at texts
    exact formatTranscript_altered _ (Json.str.inj texts)
  · intro own others agree
    have known (owner : String) (reads : QueryReads loads owner) :
        others.lookup owner = stores.transcripts.lookup owner := by
      rw [own owner reads, agree]
    exact query_congr b t stores random userId sessionId text content history normalized loads known

end

/-! ## The canvas steps of a plan -/

structure CanvasReads (w : StepWorld) (s : PlanStep) (outputs : StepOutputs) (userId : String) :
    Prop where
  query : s.agentType = .query
  source : s.querySource = some .canvas
  asked : ∃ params, s.queryParams = some params ∧
    (∀ entry ∈ params.items, (meaning w.builtins outputs entry.2).isSome) ∧
    (resolved (meaning w.builtins outputs) params.items).get "user_id" = .json (.str userId)
  given : userId ≠ ""

section
variable {w : StepWorld} {s : PlanStep} {outputs : StepOutputs} (world : PlanStep → World)
variable (session : Option SessionContext)

theorem canvas_step {owner : String} (reads : CanvasReads w s outputs owner) :
    (dispatchStep (stepHandlers w world) s outputs session).out =
      .ok (.transcript (transcriptOf w.stores.transcripts owner)) := by
  obtain ⟨params, given, present, named⟩ := reads.asked
  have resolves : (resolveWith (resolveStepRef w.builtins outputs) params.items).out =
      .ok (resolved (meaning w.builtins outputs) params.items) :=
    (resolveWith_ok (fun _ _ => resolveStepRef_ok) params.items _).mpr ⟨present, rfl⟩
  have ran : (runQueryStep w.builtins w.objects w.stores s outputs).out =
      .ok (.transcript (transcriptOf w.stores.transcripts owner)) := by
    simp only [runQueryStep, reads.source, given, resolveStepRefs, Eff.bind_ok resolves, Eff.lift_out]
    rw [reformulated, if_neg (by rw [reads.source]; decide), sourceHandler,
      queryCanvas_reads reads.given named]
    rfl
  rw [dispatchStep, reads.query]
  simp only [Eff.lift_out]
  exact ran

theorem runQueryStep_congr {others : TranscriptStore} (query : s.agentType = .query)
    (agree : ∀ owner, CanvasReads w s outputs owner →
      others.lookup owner = w.stores.transcripts.lookup owner) :
    (runQueryStep w.builtins w.objects (storesWith w.stores others) s outputs).out =
      (runQueryStep w.builtins w.objects w.stores s outputs).out := by
  obtain ⟨source, params, hasSource, hasParams⟩ := query_fields s query
  simp only [runQueryStep, hasSource, hasParams]
  cases resolves : (resolveStepRefs w.builtins params outputs).out with
  | error e => rw [Eff.bind_error resolves, Eff.bind_error resolves]
  | ok given =>
      rw [Eff.bind_ok resolves, Eff.bind_ok resolves]
      simp only [Eff.lift_out]
      obtain ⟨present, same⟩ := (resolveWith_ok (fun _ _ => resolveStepRef_ok) _ _).mp resolves
      cases source with
      | canvas =>
          rw [reformulated, if_neg (by simp [hasSource]), sourceHandler, sourceHandler,
            queryCanvas_congr]
          intro owner nonempty named
          apply agree owner
          exact ⟨query, hasSource, ⟨params, hasParams, present, same ▸ named⟩, nonempty⟩
      | degreeDb => rfl
      | catalogDb => rfl
      | syllabusRag => rfl

theorem step_congr {others : TranscriptStore}
    (agree : ∀ owner, CanvasReads w s outputs owner →
      others.lookup owner = w.stores.transcripts.lookup owner) :
    (dispatchStep (stepHandlers (worldWith w others) world) s outputs session).out =
      (dispatchStep (stepHandlers w world) s outputs session).out := by
  rw [dispatchStep, dispatchStep]
  cases kind : s.agentType with
  | query =>
      rw [Eff.lift_out, Eff.lift_out]
      exact runQueryStep_congr kind agree
  | action => rfl
  | reasoning => rfl
  | constraintSolver => rfl

end

/-! ## The runs of a plan -/

section
variable {σ : Type} (w : StepWorld) (langChain : LangChain) (client : CoreServiceClient σ)
  (service : PlanStep → σ)
variable (read : PlanStep → ReadCourse) (stamp : PlanStep → Stamp) (hex : PlanStep → String)
variable (limits : GraphLimits) (order : Superstep.MergeOrder Update) (p : Plan)

def handlersWith (others : TranscriptStore) : LawfulHandlers Event :=
  lawfulStepHandlers (worldWith w others) langChain client service read stamp hex

def deliveredWith (state : AgentView) (others : TranscriptStore) : Except PyExc PlanningResult :=
  (planned limits (handlersWith w langChain client service read stamp hex others).toHandlers order p state).out

def OwnCanvasSteps (userId : String) (session : SessionContext) : Prop :=
  Fits limits p → ∀ s ∈ p.steps, ∀ input,
    Meets (lawfulStepHandlers w langChain client service read stamp hex).toHandlers p order (some session) s input →
    ∀ owner, CanvasReads w s input.stepOutputs owner → owner = userId

variable {userId : String} {session : SessionContext} {state : AgentView}

theorem delivered_congr (known : planSession state = .ok session) {others : TranscriptStore}
    (agree : others.lookup userId = w.stores.transcripts.lookup userId)
    (own : OwnCanvasSteps w langChain client service read stamp hex limits order p userId session) :
    deliveredWith w langChain client service read stamp hex limits order p state others =
      deliveredWith w langChain client service read stamp hex limits order p state w.stores.transcripts := by
  unfold deliveredWith
  by_cases fits : Fits limits p
  · rw [planned_fits limits _ order p state known fits, planned_fits limits _ order p state known fits,
      stateAt_congr]
    intro s mem
    apply outcomeOf_congr _ mem
    intro s mem outputs same
    have met := (meets_iff (lawfulStepHandlers w langChain client service read stamp hex) p order (some session)
      mem _).mpr rfl
    have known (owner : String) (reads : CanvasReads w s
        (inputOf (lawfulStepHandlers w langChain client service read stamp hex) p order (some session) s).stepOutputs
        owner) : others.lookup owner = w.stores.transcripts.lookup owner := by
      rw [own fits s mem _ met owner reads, agree]
    rw [outcomeOf_eq]
    calc (dispatchStep (handlersWith w langChain client service read stamp hex others).toHandlers s outputs
          (some session)).out
        = (dispatchStep (handlersWith w langChain client service read stamp hex others).toHandlers s _
            (some session)).out := congrArg Eff.out (dispatchStep_congr same (worldWith w others) _ s _)
      _ = _ := step_congr _ (some session) known
  · obtain ⟨e, failed⟩ := planned_unfit limits order p state fits
    rw [failed, failed]

theorem valueOf_canvas (others : TranscriptStore) {s : PlanStep} {outputs : StepOutputs}
    {owner : String} (reads : CanvasReads w s outputs owner)
    (same : ∀ i, (inputOf (handlersWith w langChain client service read stamp hex others) p order (some session)
      s).stepOutputs.lookup i = outputs.lookup i) :
    valueOf (handlersWith w langChain client service read stamp hex others) p order (some session) s =
      .transcript (transcriptOf others owner) := by
  have reads' : CanvasReads (worldWith w others) s outputs owner :=
    ⟨reads.query, reads.source, reads.asked, reads.given⟩
  have returned : outcomeOf (handlersWith w langChain client service read stamp hex others) p order (some session)
      s = .ok (.transcript (transcriptOf others owner)) := by
    rw [outcomeOf_eq]
    calc _ = _ := congrArg Eff.out (dispatchStep_congr same (worldWith w others) _ s _)
      _ = _ := canvas_step _ (some session) reads'
  rw [valueOf, returned]
  rfl

theorem own_of_isolated (known : planSession state = .ok session)
    (isolated : Isolated userId w.stores.transcripts
      (deliveredWith w langChain client service read stamp hex limits order p state)) :
    OwnCanvasSteps w langChain client service read stamp hex limits order p userId session := by
  intro fits s mem input met owner reads
  by_contra other
  obtain rfl := (meets_iff _ p order (some session) mem input).mp met
  have same := isolated (alter w.stores.transcripts owner) (alter_other (Ne.symm other))
  unfold deliveredWith at same
  rw [planned_fits limits _ order p state known fits,
    planned_fits limits _ order p state known fits] at same
  have final := congrArg PlanningResult.stepOutputs (Except.ok.inj same)
  have values (a : PlanStep) (mem : a ∈ p.steps) := valueOf_of_outputs final mem
  have first := valueOf_canvas w langChain client service read stamp hex order p (alter w.stores.transcripts owner)
    reads (inputOf_of_values values s)
  have second := valueOf_canvas w langChain client service read stamp hex order p w.stores.transcripts reads
    fun _ => rfl
  have transcripts := first.symm.trans ((values s mem).trans second)
  rw [alter_same] at transcripts
  exact altered_ne _ (StepValue.transcript.inj transcripts)

theorem plan_isolated_iff (known : planSession state = .ok session) :
    Isolated userId w.stores.transcripts
        (deliveredWith w langChain client service read stamp hex limits order p state) ↔
      OwnCanvasSteps w langChain client service read stamp hex limits order p userId session := by
  constructor
  · exact own_of_isolated w langChain client service read stamp hex limits order p known
  · intro own others agree
    exact delivered_congr w langChain client service read stamp hex limits order p known agree own

/-- A student's run depends on no other transcript exactly when the model names no other user: in the
reply of the query agent, and in the parameters that the canvas steps of a plan meet. -/
theorem transcripts_isolated_iff (random : RandomBytes) (userId sessionId text content : String)
    (history : List Message) (normalized : Option Json) (loads : Loads) :
    (Isolated userId w.stores.transcripts (fun others =>
        runQueryAgent w.builtins w.objects (storesWith w.stores others) random
          (Loads.reply content loads) (studentView userId sessionId text history normalized)) ↔
      ∀ owner, QueryReads loads owner → owner = userId) ∧
    (Isolated userId w.stores.transcripts (deliveredWith w langChain client service read stamp hex limits order p
        (studentView userId sessionId text history normalized)) ↔
      OwnCanvasSteps w langChain client service read stamp hex limits order p userId
        { userId, sessionId, userRole := "student" }) := by
  constructor
  · exact query_isolated_iff w.builtins w.objects w.stores random userId sessionId text content history
      normalized loads
  · exact plan_isolated_iff w langChain client service read stamp hex limits order p rfl

end

/-! A student who is shown the transcript of another, by both agents. -/

def otherReply : Dict :=
  [("source", .str "canvas"), ("params", .obj [("user_id", .str "u2")]), ("query_type", .str "grades")]

def otherText : String :=
  "\x7b\"source\": \"canvas\", \"params\": \x7b\"user_id\": \"u2\"\x7d, " ++
    "\"query_type\": \"grades\"\x7d"

def otherStep : PlanStep where
  stepId := 0
  description := "Read the transcript"
  agentType := .query
  querySource := some .canvas
  queryParams := some [("user_id", .str "u2")]
  valid := rfl

def otherPlan : Plan where
  steps := [otherStep]
  reasoning := "show grades"
  accepted := accepted_of_lt (by decide) (by decide) (by decide)

def wideLimits : GraphLimits := ⟨fun _ => false, 25⟩

theorem otherPlan_fits : Fits wideLimits otherPlan where
  names _ _ := rfl
  supersteps := by
    apply (supersteps_iff wideLimits otherPlan).mpr
    exact (height_le_length otherPlan).trans (by decide)

theorem otherStep_reads (outputs : StepOutputs) : CanvasReads mockWorld otherStep outputs "u2" where
  query := rfl
  source := rfl
  asked := ⟨_, rfl, by simp [Dict.items, Dict.keys]; rfl, rfl⟩
  given := by decide

theorem other_transcript_shown :
    ¬ Isolated "u1" mockTranscripts (fun others =>
        runQueryAgent .ascii mockWorld.objects (storesWith mockStores others) (fun _ => 0)
          (Loads.reply otherText (.value (.obj otherReply)))
          (studentView "u1" "session-1" "my grades" [] none)) ∧
    ¬ Isolated "u1" mockTranscripts (deliveredWith mockWorld Invocation.textTools (databaseClient .schema)
        (fun _ => ⟨[], ⟨[], List.nodup_nil⟩, []⟩) (fun _ _ => .error ⟨.keyError, "no course"⟩)
        (fun _ => ⟨"0123456789ab", ""⟩) (fun _ => "A1B2C3") wideLimits keepOrder otherPlan
        (studentView "u1" "session-1" "my grades" [] none)) := by
  constructor
  · intro isolated
    have own := (query_isolated_iff .ascii mockWorld.objects mockStores _ "u1" "session-1" "my grades"
      otherText [] none _).mp isolated "u2"
    have named := own ⟨⟨otherReply, _, rfl, rfl, rfl, rfl, fun _ => ⟨"grades", rfl⟩⟩, by decide⟩
    exact absurd named (by decide)
  · intro isolated
    have own := own_of_isolated mockWorld _ _ _ _ _ _ _ _ _ rfl isolated otherPlan_fits otherStep
      (List.mem_singleton_self _) _
      ((meets_iff mockHandlers otherPlan keepOrder _ (List.mem_singleton_self _) _).mpr rfl)
      "u2" (otherStep_reads _)
    exact absurd own (by decide)

end RealityAI.Proof.Transcripts
