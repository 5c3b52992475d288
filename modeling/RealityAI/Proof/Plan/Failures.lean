import RealityAI.Proof.Plan.Acceptance

namespace RealityAI.Proof.Failures
open Library Library.Dependency Python Model.Schemas Model.State Model.Safety
open Model.PlanningAgent Model.ActionAgent Model.ActionTools Model.QueryAgent Model.PlanSteps Plan

def names (b : Builtins) (s : PlanStep) : List Int :=
  match s.agentType with
  | .query => queryRefs b (s.queryParams.getD []).items
  | .action => []
  | .reasoning => s.reasoningInputs.getD []
  | .constraintSolver => queryRefs b (s.solverInputs.getD []).items

/-- In every run a step that names a failed step has failed. -/
def FailuresSpread {ω : Type} (b : Builtins) (h : Handlers ω) (p : Model.Schemas.Plan)
    (session : Option SessionContext) : Prop :=
  ∀ order, ∀ f ∈ p.steps, ∀ s ∈ p.steps, f.stepId ∈ names b s → ∀ call call',
    Records h p order session f call → Records h p order session s call' →
    call.success = false → call'.success = false

/-- In every run the handler of a step that names a failed step does not accept its inputs. -/
def FailuresRefused {ω : Type} (w : StepWorld) (h : Handlers ω) (p : Model.Schemas.Plan)
    (session : Option SessionContext) : Prop :=
  ∀ order, ∀ f ∈ p.steps, ∀ s ∈ p.steps, f.stepId ∈ names w.builtins s → ∀ call input,
    Records h p order session f call → Meets h p order session s input →
    call.success = false → ¬ Accepts w s input.stepOutputs

theorem stepCall_success {s : PlanStep} (reads : s.agentType ≠ .action)
    (out : Except PyExc StepValue) : (stepCall s out).success = false ↔ ¬ Returns out := by
  cases out with
  | error e => simp [stepCall]
  | ok result =>
      have undenied : deniedResult s result = none := by
        unfold deniedResult
        split
        · rw [if_neg (fun both => reads both.1)]
        · rfl
      simp [stepCall, undenied]

theorem names_action {b : Builtins} {s : PlanStep} {i : Int} (named : i ∈ names b s) :
    s.agentType ≠ .action := by
  intro action
  simp [names, action] at named

section
variable {σ : Type} (w : StepWorld) (langChain : LangChain) (client : CoreServiceClient σ)
  (service : PlanStep → σ)
variable (read : PlanStep → ReadCourse) (stamp : PlanStep → Stamp) (hex : PlanStep → String)
variable (p : Model.Schemas.Plan) (session : Option SessionContext)

theorem callOf_success (order : Superstep.MergeOrder Update) {s : PlanStep}
    (reads : s.agentType ≠ .action) :
    (callOf (lawfulStepHandlers w langChain client service read stamp hex) p order session s).success = false ↔
      ¬ Accepts w s (inputOf (lawfulStepHandlers w langChain client service read stamp hex) p order session
        s).stepOutputs := by
  rw [callOf, stepCall_success reads, outcomeOf_eq, lawfulStepHandlers_eq,
    dispatchStep_returns_iff w _ s _ session reads]

theorem refused_of_spread
    (spread : FailuresSpread w.builtins (lawfulStepHandlers w langChain client service read stamp hex).toHandlers
      p session) :
    FailuresRefused w (lawfulStepHandlers w langChain client service read stamp hex).toHandlers p session := by
  intro order f memF s mem named call input recorded met failed
  obtain rfl := (meets_iff _ p order session mem input).mp met
  rw [← callOf_success w langChain client service read stamp hex p session order (names_action named)]
  exact spread order f memF s mem named call _ recorded ((records_iff _ p order session mem _).mpr rfl)
    failed

/-- A failed input makes every step that names it fail, in every run, exactly when no handler accepts
inputs among which is the result of a failed step. -/
theorem failures_spread_iff :
    FailuresSpread w.builtins (lawfulStepHandlers w langChain client service read stamp hex).toHandlers p
        session ↔
      FailuresRefused w (lawfulStepHandlers w langChain client service read stamp hex).toHandlers p session := by
  constructor
  · exact refused_of_spread w langChain client service read stamp hex p session
  · intro refused order f memF s mem named call call' recorded recorded' failed
    obtain rfl := (records_iff _ p order session mem call').mp recorded'
    rw [callOf_success w langChain client service read stamp hex p session order (names_action named)]
    exact refused order f memF s mem named call _ recorded
      ((meets_iff _ p order session mem _).mpr rfl) failed

end

/-! ## Positions in which a failed result is always refused -/

inductive FailedValue : StepValue → Prop
  | raised (e : PyExc) : FailedValue (.exc e)
  | denied (d : Dict) : (Dict.get d "denied_by_inner_safety").truthy = true →
      FailedValue (.json (.obj d))

theorem failedValue {ω : Type} {h : LawfulHandlers ω} {p : Model.Schemas.Plan}
    {order : Superstep.MergeOrder Update} {session : Option SessionContext} {f : PlanStep}
    (failed : (callOf h p order session f).success = false) :
    FailedValue (valueOf h p order session f) := by
  rw [callOf] at failed
  rw [valueOf]
  cases out : outcomeOf h p order session f with
  | error e => exact .raised e
  | ok result =>
      rw [out, stepCall] at failed
      unfold deniedResult at failed
      split at failed
      · rename_i d known
        split at known
        · split at known
          · rename_i d' denied
            exact .denied d' denied.2
          · cases known
        · cases known
      · cases failed

section
variable {t : ObjectTexts} {stores : DataStores} {params : Params} {v : StepValue}

theorem not_textual (failed : FailedValue v) : ¬ Textual v := by
  intro ⟨s, same⟩
  subst same
  cases failed

theorem failed_truthy (failed : FailedValue v) : v.truthy = true := by
  cases failed with
  | raised e => rfl
  | denied d denied =>
      cases d with
      | nil => cases denied
      | cons entry rest => rfl

theorem user_guarded (failed : FailedValue (params.get "user_id")) :
    ¬ SourceAccepts t stores params .canvas :=
  fun ⟨userId, _, named⟩ => not_textual failed ⟨userId, named⟩

theorem programKey_textual {major track cohort : StepValue} {key : String × Option String × String}
    (known : programKey major track cohort = some key) :
    Textual major ∧ (Textual track ∨ track = .json .null) ∧ Textual cohort := by
  unfold programKey at known
  split at known
  · exact ⟨⟨_, rfl⟩, .inl ⟨_, rfl⟩, ⟨_, rfl⟩⟩
  · exact ⟨⟨_, rfl⟩, .inr rfl, ⟨_, rfl⟩⟩
  · cases known

theorem program_guarded (failed : FailedValue (params.get "major") ∨
    FailedValue (params.get "track") ∨ FailedValue (params.get "cohort")) :
    ¬ SourceAccepts t stores params .degreeDb := by
  intro ⟨_, _, key, known, _⟩
  obtain ⟨major, track, cohort⟩ := programKey_textual known
  rcases failed with failed | failed | failed
  · exact not_textual failed major
  · rcases track with track | null
    · exact not_textual failed track
    · rw [null] at failed
      cases failed
  · exact not_textual failed cohort

theorem course_guarded (failed : FailedValue (params.get "course_id")) :
    ¬ SourceAccepts t stores params .syllabusRag := by
  intro ⟨course, _, _⟩
  have given : params.get? "course_id" = some (params.get "course_id") := by
    unfold Params.get at failed ⊢
    cases found : params.get? "course_id" with
    | none =>
        rw [found] at failed
        cases failed
    | some v => rfl
  rw [given] at course
  exact not_textual failed (course (failed_truthy failed))

theorem candidates_guarded {w : StepWorld} (failed : FailedValue (params.get "candidates")) :
    ¬ CspAccepts w params := by
  intro ⟨candidates, _, _, known, _⟩
  generalize params.get "candidates" = v at failed known
  cases failed with
  | raised e => cases known
  | denied d denied => cases known

/-- The parameters in which a source takes no failed result. -/
def guardedKeys : QuerySource → List String
  | .canvas => ["user_id"]
  | .degreeDb => ["major", "track", "cohort"]
  | .catalogDb => []
  | .syllabusRag => ["course_id"]

/-- A step names another one where its handler takes no failed result. -/
inductive GuardedName (b : Builtins) (f s : PlanStep) : Prop
  | param {source : QuerySource} {params : Dict} {key : String} : s.agentType = .query →
      s.querySource = some source → s.queryParams = some params → key ∈ guardedKeys source →
      key ∈ Dict.keys params → ref? b (Dict.get params key) = some f.stepId → GuardedName b f s
  | candidates {inputs : Dict} : s.agentType = .constraintSolver → s.solverInputs = some inputs →
      "candidates" ∈ Dict.keys inputs → ref? b (Dict.get inputs "candidates") = some f.stepId →
      GuardedName b f s

def UnguardedRefused {ω : Type} (w : StepWorld) (h : Handlers ω) (p : Model.Schemas.Plan)
    (session : Option SessionContext) : Prop :=
  ∀ order, ∀ f ∈ p.steps, ∀ s ∈ p.steps, f.stepId ∈ names w.builtins s →
    ¬ GuardedName w.builtins f s → ∀ call input, Records h p order session f call →
    Meets h p order session s input → call.success = false → ¬ Accepts w s input.stepOutputs

theorem source_guarded {source : QuerySource} {key : String} (guarded : key ∈ guardedKeys source)
    (failed : FailedValue (params.get key)) : ¬ SourceAccepts t stores params source := by
  cases source with
  | canvas =>
      obtain rfl := List.mem_singleton.mp guarded
      exact user_guarded failed
  | degreeDb =>
      simp only [guardedKeys, List.mem_cons, List.not_mem_nil, or_false] at guarded
      rcases guarded with major | track | cohort
      · exact program_guarded (.inl (major ▸ failed))
      · exact program_guarded (.inr (.inl (track ▸ failed)))
      · exact program_guarded (.inr (.inr (cohort ▸ failed)))
  | catalogDb => cases guarded
  | syllabusRag =>
      obtain rfl := List.mem_singleton.mp guarded
      exact course_guarded failed

end

theorem resolved_get {mean : Json → Option StepValue} {d : Dict} {key : String} {value : StepValue}
    (given : key ∈ Dict.keys d) (means : mean (Dict.get d key) = some value) :
    (resolved mean (Dict.items d)).get key = value := by
  rw [Params.get, Params.get?, resolved, items_lookup fun v => (mean v).getD (.json .null), if_pos given,
    means]
  rfl

theorem reformulated_get {s : PlanStep} {params : Params} {source : QuerySource} {key : String}
    (chosen : s.querySource = some source) (guarded : key ∈ guardedKeys source) :
    (reformulated s params).get key = params.get key := by
  unfold reformulated
  cases source with
  | syllabusRag =>
      obtain rfl := List.mem_singleton.mp guarded
      rw [if_pos chosen]
      cases s.semanticQuery <;> cases s.queryExpansion <;> rfl
  | canvas => rw [if_neg (by simp [chosen])]
  | degreeDb => rw [if_neg (by simp [chosen])]
  | catalogDb => rw [if_neg (by simp [chosen])]

section
variable {σ : Type} (w : StepWorld) (langChain : LangChain) (client : CoreServiceClient σ)
  (service : PlanStep → σ)
variable (read : PlanStep → ReadCourse) (stamp : PlanStep → Stamp) (hex : PlanStep → String)
variable (p : Model.Schemas.Plan) (session : Option SessionContext)
variable (order : Superstep.MergeOrder Update)

theorem found_value {f s : PlanStep} (memF : f ∈ p.steps) {value : StepValue}
    (found : (inputOf (lawfulStepHandlers w langChain client service read stamp hex) p order session
      s).stepOutputs.lookup f.stepId = some value) :
    value = valueOf (lawfulStepHandlers w langChain client service read stamp hex) p order session f := by
  rw [inputOf_lookup _ p order session s memF] at found
  split at found
  · exact (Option.some.inj found).symm
  · cases found

variable {f s : PlanStep} (memF : f ∈ p.steps)
variable (failed : (callOf (lawfulStepHandlers w langChain client service read stamp hex) p order session
  f).success = false)
include memF failed

theorem guarded_query_fails {source : QuerySource} {params : Dict} {key : String}
    (query : s.agentType = .query) (chosen : s.querySource = some source)
    (has : s.queryParams = some params) (guarded : key ∈ guardedKeys source)
    (given : key ∈ Dict.keys params) (named : ref? w.builtins (Dict.get params key) = some f.stepId) :
    (callOf (lawfulStepHandlers w langChain client service read stamp hex) p order session s).success = false := by
  rw [callOf_success w langChain client service read stamp hex p session order (by simp [query])]
  intro accepts
  simp only [Accepts, query] at accepts
  obtain ⟨source', params', chosen', has', present, accepts⟩ := accepts
  obtain rfl : source = source' := Option.some.inj (chosen.symm.trans chosen')
  obtain rfl : params = params' := Option.some.inj (has.symm.trans has')
  have listed : (key, Dict.get params key) ∈ Dict.items params := List.mem_map_of_mem given
  obtain ⟨value, means⟩ := Option.isSome_iff_exists.mp (present _ listed)
  have found := means
  simp only [meaning, named] at found
  refine source_guarded guarded ?_ accepts
  rw [reformulated_get chosen guarded, resolved_get given means,
    found_value w langChain client service read stamp hex p session order memF found]
  exact failedValue failed

theorem guarded_solver_fails {inputs : Dict} (solver : s.agentType = .constraintSolver)
    (has : s.solverInputs = some inputs) (given : "candidates" ∈ Dict.keys inputs)
    (named : ref? w.builtins (Dict.get inputs "candidates") = some f.stepId) :
    (callOf (lawfulStepHandlers w langChain client service read stamp hex) p order session s).success = false := by
  rw [callOf_success w langChain client service read stamp hex p session order (by simp [solver])]
  intro accepts
  simp only [Accepts, solver, has, Option.getD_some] at accepts
  obtain ⟨-, present, accepts⟩ := accepts
  have listed : ("candidates", Dict.get inputs "candidates") ∈ Dict.items inputs :=
    List.mem_map_of_mem given
  obtain ⟨value, means⟩ := Option.isSome_iff_exists.mp (present _ listed)
  have found := means
  simp only [solverMeaning, meaning, named, reduceCtorEq, and_false, if_false] at found
  refine candidates_guarded ?_ accepts
  rw [resolved_get given means,
    found_value w langChain client service read stamp hex p session order memF found]
  exact failedValue failed

/-- A step fails when it names a failed step in a guarded position, whether it depends on that step
or not. -/
theorem guarded_fails (guarded : GuardedName w.builtins f s) :
    (callOf (lawfulStepHandlers w langChain client service read stamp hex) p order session s).success = false := by
  cases guarded with
  | param query chosen has guarded given named =>
      exact guarded_query_fails w langChain client service read stamp hex p session order memF failed
        query chosen has guarded given named
  | candidates solver has given named =>
      exact guarded_solver_fails w langChain client service read stamp hex p session order memF failed
        solver has given named

omit memF failed

/-- Only the other positions decide whether failures spread. -/
theorem failuresRefused_iff_unguarded :
    FailuresRefused w (lawfulStepHandlers w langChain client service read stamp hex).toHandlers p
        session ↔
      UnguardedRefused w (lawfulStepHandlers w langChain client service read stamp hex).toHandlers p
        session := by
  constructor
  · intro refused order f memF s mem named _
    exact refused order f memF s mem named
  · intro refused order f memF s mem named call input recorded met failed
    by_cases guarded : GuardedName w.builtins f s
    · obtain rfl := (meets_iff _ p order session mem input).mp met
      obtain rfl := (records_iff _ p order session memF call).mp recorded
      rw [← callOf_success w langChain client service read stamp hex p session order
        (names_action named)]
      exact guarded_fails w langChain client service read stamp hex p session order memF failed guarded
    · exact refused order f memF s mem named guarded call input recorded met failed

end

/-! An advising schedule that is computed without the transcript. -/

def missingTranscript : PlanStep where
  stepId := 0
  description := "Read the transcript"
  agentType := .query
  querySource := some .canvas
  queryParams := some [("user_id", .str "")]
  valid := rfl

def catalogStep : PlanStep where
  stepId := 1
  description := "List the sections"
  agentType := .query
  querySource := some .catalogDb
  queryParams := some [("term", .str "S26")]
  valid := rfl

def scheduleStep : PlanStep where
  stepId := 2
  description := "Find schedules"
  dependsOn := [0, 1]
  agentType := .constraintSolver
  solverType := some .scheduleCsp
  solverInputs := some [("candidates", .str "<from_step_1>"), ("completed", .str "<from_step_0>")]
  valid := rfl

def blindPlan : Model.Schemas.Plan where
  steps := [missingTranscript, catalogStep, scheduleStep]
  reasoning := "plan next semester"
  accepted := accepted_of_lt (by decide) (by decide) (by decide)

theorem missingTranscript_raises (outputs : StepOutputs) :
    (dispatchStep mockHandlers.toHandlers missingTranscript outputs none).out =
      .error ⟨.valueError, "canvas query requires user_id"⟩ := by
  rfl

theorem catalogStep_returns (outputs : StepOutputs) :
    (dispatchStep mockHandlers.toHandlers catalogStep outputs none).out =
      .ok (.sections (mockCatalog.drop 3)) := by
  rfl

theorem blind_before {a : Int} (dependsOn : a ∈ scheduleStep.dependsOn) :
    level blindPlan a < level blindPlan scheduleStep.stepId :=
  level_lt_of_before blindPlan ((mem_needs _).mpr ⟨scheduleStep, by simp [blindPlan], rfl, dependsOn⟩)

theorem schedule_sees_failure :
    (inputOf mockHandlers blindPlan keepOrder none scheduleStep).stepOutputs.lookup 0 =
      some (.exc ⟨.valueError, "canvas query requires user_id"⟩) := by
  rw [show (0 : Int) = missingTranscript.stepId from rfl,
    inputOf_lookup mockHandlers blindPlan keepOrder none scheduleStep (by simp [blindPlan]),
    if_pos (blind_before (by simp [scheduleStep, missingTranscript])), valueOf, outcomeOf_eq,
    missingTranscript_raises]
  rfl

theorem schedule_sees_sections :
    (inputOf mockHandlers blindPlan keepOrder none scheduleStep).stepOutputs.lookup 1 =
      some (.sections (mockCatalog.drop 3)) := by
  rw [show (1 : Int) = catalogStep.stepId from rfl,
    inputOf_lookup mockHandlers blindPlan keepOrder none scheduleStep (by simp [blindPlan]),
    if_pos (blind_before (by simp [scheduleStep, catalogStep])), valueOf, outcomeOf_eq,
    catalogStep_returns]
  rfl

theorem schedule_accepts {outputs : StepOutputs} {e : PyExc}
    (failure : outputs.lookup 0 = some (.exc e))
    (sections : outputs.lookup 1 = some (.sections (mockCatalog.drop 3))) :
    Accepts mockWorld scheduleStep outputs := by
  have first : solverMeaning mockWorld.builtins outputs (.str "<from_step_1>") =
      some (.sections (mockCatalog.drop 3)) := sections
  have second : solverMeaning mockWorld.builtins outputs (.str "<from_step_0>") = some (.exc e) :=
    failure
  have items : (scheduleStep.solverInputs.getD []).items =
      [("candidates", .str "<from_step_1>"), ("completed", .str "<from_step_0>")] := rfl
  have inputs : resolved (solverMeaning mockWorld.builtins outputs)
      (scheduleStep.solverInputs.getD []).items =
        [("candidates", .sections (mockCatalog.drop 3)), ("completed", .exc e)] := by
    simp [items, resolved, first, second]
  show _ ∧ _ ∧ _
  rw [inputs, items]
  refine ⟨rfl, ?_, mockCatalog.drop 3, [], {}, rfl, rfl, rfl, ?_, .inr (by decide)⟩
  · simp [first, second]
  · intro c _ _ _
    cases c.meetings <;> simp [Comparable]

theorem failed_transcript_scheduled :
    ¬ FailuresSpread mockWorld.builtins mockHandlers.toHandlers blindPlan none := by
  intro spread
  have refused := refused_of_spread mockWorld _ _ _ _ _ _ blindPlan none spread keepOrder
    missingTranscript (by simp [blindPlan]) scheduleStep (by simp [blindPlan])
  refine refused (by decide +kernel) _ _ ((records_iff mockHandlers _ _ _ (by simp [blindPlan]) _).mpr rfl)
    ((meets_iff mockHandlers _ _ _ (by simp [blindPlan]) _).mpr rfl) ?_
    (schedule_accepts schedule_sees_failure schedule_sees_sections)
  rw [callOf, outcomeOf_eq, missingTranscript_raises]
  rfl

end RealityAI.Proof.Failures
