import RealityAI.Proof.Plan.References
import RealityAI.Proof.Plan.Report
import RealityAI.Proof.Reasoning.Soundness
import RealityAI.Proof.Retrieval.Merge
import RealityAI.Proof.Transcripts

/-!
# What a plan brings out comes from the stores
-/

namespace RealityAI.Proof.Grounding
open Library Python Model.Schemas Model.State Model.Safety Model.PlanningAgent Model.ActionAgent
open Model.ActionTools Model.QueryAgent Model.Retrieval Model.Reasoning Model.PlanSteps
open Model.PlanAgent Plan Reasoning Retrieval Transcripts InnerSafety

/-! ## Values out of the stores -/

def FromDocument (stores : DataStores) (c : SyllabusChunk) : Prop :=
  ∃ d ∈ stores.documents.documents, d.docId = c.chunkId ∧ d.content = c.content ∧
    (c.courseId = "" ∨ d.courseId = c.courseId)

structure FromCatalog (stores : DataStores) (o : ScheduleOption) : Prop where
  offered : o.courses.Sublist stores.catalog
  attended : ∀ day t, (o.courses.flatMap fun c => c.meetings).countP (InProgress day t) ≤ 1
  total : o.totalCredits = (o.courses.map fun c => c.credits).sum

def KnownProgram (stores : DataStores) (d : DegreeProgram) : Prop :=
  ∃ key, stores.degreePrograms.lookup key = some d

/-- The stored transcript of a user, or one without entries for a user who has none. -/
def KnownTranscript (stores : DataStores) (t : StudentTranscript) : Prop :=
  ∃ userId, stores.transcripts.lookup userId = some t ∨
    stores.transcripts.lookup userId = none ∧ t = ⟨userId, []⟩

def Grounded (stores : DataStores) : StepValue → Prop
  | .transcript t => KnownTranscript stores t
  | .program d => KnownProgram stores d
  | .sections cs => cs.Sublist stores.catalog
  | .unsatisfied rs => ∃ program transcript, KnownProgram stores program ∧
      KnownTranscript stores transcript ∧ rs = computeUnsatisfied program transcript
  | .chunks cs => ∀ c ∈ cs, FromDocument stores c
  | .options os => ∀ o ∈ os, FromCatalog stores o
  | .json _ | .exc _ => True

/-- The text of a reasoning step finds no schedule or recommends one of the catalog. -/
def Recommends (stores : DataStores) (step : PlanStep) (value : StepValue) : Prop :=
  step.agentType = .reasoning → ∀ v, value = .json v → ∃ text, v = .str text ∧
    (text = "No valid schedule options found." ∨
      ∃ o, FromCatalog stores o ∧ explainSchedule (.options [o]) = .ok text)

structure FromStores (stores : DataStores) (step : PlanStep) (value : StepValue) : Prop where
  grounded : Grounded stores value
  recommends : Recommends stores step value

/-! ## The data sources -/

section
variable {b : Builtins} {t : ObjectTexts} {stores : DataStores} {params : Params}

theorem queryCanvas_known {transcript : StudentTranscript}
    (ok : queryCanvas t stores params = .ok transcript) : KnownTranscript stores transcript := by
  unfold queryCanvas at ok
  dsimp only at ok
  split at ok
  · cases ok
  · cases hashed : t.hash (params.get "user_id") with
    | error e =>
        rw [hashed] at ok
        cases ok
    | ok _ =>
        rw [hashed, ok_bind] at ok
        split at ok
        · rename_i userId _
          cases ok
          refine ⟨userId, ?_⟩
          cases stores.transcripts.lookup userId with
          | none => exact .inr ⟨rfl, rfl⟩
          | some transcript => exact .inl rfl
        · cases ok

theorem queryDegreeDb_known {program : DegreeProgram}
    (ok : queryDegreeDb b t stores params = .ok program) : KnownProgram stores program := by
  unfold queryDegreeDb at ok
  dsimp only at ok
  split at ok
  · cases ok
  · obtain ⟨_, _, ok⟩ := bind_ok.mp ok
    obtain ⟨_, _, ok⟩ := bind_ok.mp ok
    obtain ⟨_, _, ok⟩ := bind_ok.mp ok
    split at ok
    · rename_i found
      cases ok
      obtain ⟨key, -, found⟩ := Option.bind_eq_some_iff.mp found
      exact ⟨key, found⟩
    · cases ok

theorem queryCatalogDb_known {sections : List CourseSection}
    (ok : queryCatalogDb t stores params = .ok sections) : sections.Sublist stores.catalog := by
  have offDays_sublist {days : StepValue} {all kept : List CourseSection}
      (ok : offDays t days all = .ok kept) : kept.Sublist all := by
    unfold offDays at ok
    split at ok
    · obtain ⟨_, _, ok⟩ := bind_ok.mp ok
      cases ok
      exact List.filter_sublist
    · cases ok
      exact List.Sublist.refl _
  have ofCourses_sublist {codes : StepValue} {all kept : List CourseSection}
      (ok : ofCourses t codes all = .ok kept) : kept.Sublist all := by
    unfold ofCourses at ok
    split at ok
    · obtain ⟨_, _, ok⟩ := bind_ok.mp ok
      cases ok
      exact List.filter_sublist
    · cases ok
      exact List.Sublist.refl _
  have ofTerm_sublist (term : StepValue) (all : List CourseSection) : (ofTerm term all).Sublist all := by
    unfold ofTerm
    split
    · exact List.filter_sublist
    · exact List.Sublist.refl _
  obtain ⟨some_sections, courses, days⟩ := bind_ok.mp ok
  exact (offDays_sublist days).trans ((ofCourses_sublist courses).trans (ofTerm_sublist _ _))

/-! ## Retrieval -/

theorem filtered_sublist (docs : List Document) (courseId semester : Option String) :
    (filtered docs courseId semester).Sublist docs := by
  have step (p : Prop) [Decidable p] (keep : Document → Bool) (docs : List Document) :
      (if p then docs else docs.filter keep).Sublist docs := by
    split
    · exact List.Sublist.refl _
    · exact List.filter_sublist
  exact (step _ _ _).trans (step _ _ docs)

theorem filtered_course {docs : List Document} {course : String} {d : Document}
    (mem : d ∈ filtered docs (some course) none) : course = "" ∨ d.courseId = course := by
  by_cases empty : course = ""
  · exact .inl empty
  · right
    have kept : d ∈ docs.filter fun d => d.courseId = course := by
      simpa [filtered, empty] using mem
    exact of_decide_eq_true (List.mem_filter.mp kept).2

theorem mem_hybridRetrieve {store : DocumentStore} {q : String} {courseId semester : Option String}
    {topK topN : Nat} {d : Document} (mem : d ∈ hybridRetrieve b store q courseId semester topK topN) :
    ∃ stored ∈ filtered store.documents courseId semester, d.docId = stored.docId ∧
      d.content = stored.content := by
  rw [hybridRetrieve, reciprocalRankFusion_eq] at mem
  obtain ⟨⟨id, score, stored⟩, kept, rfl⟩ := List.mem_map.mp mem
  have entry := (sortedDown_perm _ _).subset (List.mem_of_mem_take kept)
  obtain ⟨docs, listed, inside⟩ := List.mem_flatten.mp (fused_document defaultK entry).2
  refine ⟨stored, ?_, rfl, rfl⟩
  simp only [List.mem_cons, List.not_mem_nil, or_false] at listed
  rcases listed with vector | keyword
  · rw [vector, vectorSearch] at inside
    obtain ⟨⟨_, _⟩, taken, rfl⟩ := List.mem_map.mp inside
    have scored := (sortedDown_perm _ _).subset (List.mem_of_mem_take taken)
    obtain ⟨doc, found, same⟩ := List.mem_map.mp scored
    obtain ⟨rfl, -⟩ := Prod.mk.inj same
    exact found
  · rw [keyword, keywordSearch] at inside
    exact (List.mem_filter.mp inside).1

theorem syllabusChunks_known (courseId : StepValue) {course : String}
    (labelled : courseId.truthy = false → course = "") (queries : List String) :
    ∀ c ∈ syllabusChunks b stores courseId course queries, FromDocument stores c := by
  intro c mem
  have found := merged (queries.map (retrievedFor b stores courseId course)) course
  rw [← List.flatMap_def] at found
  obtain ⟨docs, listed, d, inside, id, content, -⟩ := found.attained c mem
  obtain ⟨q, -, rfl⟩ := List.mem_map.mp listed
  obtain ⟨stored, kept, sameId, sameContent⟩ := mem_hybridRetrieve inside
  have labels : c.courseId = course := by
    obtain ⟨d, -, rfl⟩ := List.mem_map.mp mem
    rfl
  refine ⟨stored, (filtered_sublist _ _ _).subset kept, sameId.symm.trans id,
    sameContent.symm.trans content, ?_⟩
  rw [labels]
  cases given : courseId.truthy with
  | false => exact .inl (labelled given)
  | true =>
      rw [given, if_pos rfl] at kept
      exact filtered_course kept

theorem querySyllabusRag_known {chunks : List SyllabusChunk}
    (ok : querySyllabusRag b t stores params = .ok chunks) : ∀ c ∈ chunks, FromDocument stores c := by
  obtain ⟨course, upper, ok⟩ := bind_ok.mp ok
  obtain ⟨queries, -, ok⟩ := bind_ok.mp ok
  cases ok
  apply syllabusChunks_known
  intro falsy
  rw [upperCourse, falsy] at upper
  exact (Except.ok.inj upper).symm

theorem sourceHandler_known {source : QuerySource} {result : SourceResult}
    (ok : sourceHandler b t stores source params = .ok result) : Grounded stores result.value := by
  have mapped {α : Type} {f : α → SourceResult} {x : Except PyExc α} (ok : f <$> x = .ok result) :
      ∃ a, x = .ok a ∧ f a = result := by
    cases x with
    | error e => cases ok
    | ok a => exact ⟨a, rfl, Except.ok.inj ok⟩
  cases source with
  | canvas =>
      obtain ⟨transcript, here, rfl⟩ := mapped (x := queryCanvas t stores params) ok
      exact queryCanvas_known here
  | degreeDb =>
      obtain ⟨program, here, rfl⟩ := mapped (x := queryDegreeDb b t stores params) ok
      exact queryDegreeDb_known here
  | catalogDb =>
      obtain ⟨sections, here, rfl⟩ := mapped (x := queryCatalogDb t stores params) ok
      exact queryCatalogDb_known here
  | syllabusRag =>
      obtain ⟨chunks, here, rfl⟩ := mapped (x := querySyllabusRag b t stores params) ok
      exact querySyllabusRag_known here

end

/-! ## Steps on the outputs of others -/

section
variable {w : StepWorld} {step : PlanStep} {outputs : StepOutputs} {value : StepValue}

def AllGrounded (stores : DataStores) (outputs : StepOutputs) : Prop :=
  ∀ i value, outputs.lookup i = some value → Grounded stores value

theorem lookUp_grounded {stores : DataStores} (known : AllGrounded stores outputs) {ref : Int}
    {missing : PyExc} (ok : (lookUp outputs ref missing).out = .ok value) : Grounded stores value := by
  unfold lookUp at ok
  cases found : outputs.lookup ref with
  | none =>
      rw [found] at ok
      cases ok
  | some stored =>
      rw [found] at ok
      cases ok
      exact known ref value found

theorem runQueryStep_grounded
    (ok : (runQueryStep w.builtins w.objects w.stores step outputs).out = .ok value) :
    Grounded w.stores value := by
  unfold runQueryStep at ok
  split at ok
  · obtain ⟨params, -, ok⟩ := Eff.bind_out_ok.mp ok
    rw [Eff.lift_out] at ok
    cases handled : sourceHandler w.builtins w.objects w.stores _ (reformulated step params) with
    | error e =>
        rw [handled] at ok
        cases ok
    | ok result =>
        rw [handled] at ok
        cases ok
        exact sourceHandler_known handled
  · cases ok

theorem readInputs_grounded {stores : DataStores} (known : AllGrounded stores outputs) {refs : List Int}
    {values : List StepValue} (ok : (readInputs outputs refs).out = .ok values) :
    ∀ value ∈ values, Grounded stores value := by
  induction refs generalizing values with
  | nil =>
      cases ok
      exact List.forall_mem_nil _
  | cons ref refs ih =>
      obtain ⟨value, here, ok⟩ := Eff.bind_out_ok.mp ok
      obtain ⟨later, there, ok⟩ := Eff.bind_out_ok.mp ok
      cases ok
      exact List.forall_mem_cons.mpr ⟨lookUp_grounded known here, ih there⟩

theorem expectProgram_known {stores : DataStores} {inputs : List StepValue}
    (known : ∀ value ∈ inputs, Grounded stores value) {program : DegreeProgram}
    (ok : expectProgram inputs = .ok program) : KnownProgram stores program := by
  unfold expectProgram at ok
  split at ok
  · rename_i d found
    cases ok
    obtain ⟨value, mem, same⟩ := List.exists_of_findSome?_eq_some found
    split at same
    · cases same
      exact known _ mem
    · cases same
  · cases ok

theorem expectTranscript_known {stores : DataStores} {inputs : List StepValue}
    (known : ∀ value ∈ inputs, Grounded stores value) {transcript : StudentTranscript}
    (ok : expectTranscript inputs = .ok transcript) : KnownTranscript stores transcript := by
  unfold expectTranscript at ok
  split at ok
  · rename_i t found
    cases ok
    obtain ⟨value, mem, same⟩ := List.exists_of_findSome?_eq_some found
    split at same
    · cases same
      exact known _ mem
    · cases same
  · cases ok

theorem explainSchedule_known {stores : DataStores} (known : Grounded stores value) {text : String}
    (ok : explainSchedule value = .ok text) : text = "No valid schedule options found." ∨
      ∃ o, FromCatalog stores o ∧ explainSchedule (.options [o]) = .ok text := by
  unfold explainSchedule at ok
  split at ok
  · exact .inl (Except.ok.inj ok).symm
  · split at ok
    · rename_i top others _
      exact .inr ⟨top, known top List.mem_cons_self, ok⟩
    · cases ok

theorem runReasoningStep_known {stores : DataStores} (known : AllGrounded stores outputs)
    (ok : (runReasoningStep step outputs).out = .ok value) :
    Grounded stores value ∧ ∀ v, value = .json v → ∃ text, v = .str text ∧
      (text = "No valid schedule options found." ∨
        ∃ o, FromCatalog stores o ∧ explainSchedule (.options [o]) = .ok text) := by
  obtain ⟨inputs, read, ok⟩ := Eff.bind_out_ok.mp ok
  have grounded := readInputs_grounded known read
  rw [Eff.lift_out, applyTemplate] at ok
  split at ok
  · obtain ⟨program, here, ok⟩ := bind_ok.mp ok
    obtain ⟨transcript, there, ok⟩ := bind_ok.mp ok
    cases ok
    refine ⟨⟨program, transcript, expectProgram_known grounded here,
      expectTranscript_known grounded there, rfl⟩, ?_⟩
    rintro v ⟨⟩
  · split at ok
    · obtain ⟨options, listed, ok⟩ := bind_ok.mp ok
      obtain ⟨text, explained, ok⟩ := bind_ok.mp ok
      cases ok
      refine ⟨trivial, ?_⟩
      rintro v ⟨⟩
      refine ⟨text, rfl, explainSchedule_known ?_ explained⟩
      unfold expectList at listed
      split at listed
      · rename_i found
        cases listed
        exact grounded _ (List.mem_of_find?_eq_some found)
      · cases listed
    · cases ok

theorem resolveSolverInputs_grounded (known : AllGrounded w.stores outputs)
    {entries : List (String × Json)} {params : Params}
    (ok : (resolveWith (resolveSolverInput w outputs) entries).out = .ok params) :
    ∀ entry ∈ params, Grounded w.stores entry.2 := by
  induction entries generalizing params with
  | nil =>
      cases ok
      exact List.forall_mem_nil _
  | cons entry entries ih =>
      obtain ⟨k, v⟩ := entry
      obtain ⟨value, here, ok⟩ := Eff.bind_out_ok.mp ok
      obtain ⟨later, there, ok⟩ := Eff.bind_out_ok.mp ok
      cases ok
      refine List.forall_mem_cons.mpr ⟨?_, ih there⟩
      unfold resolveSolverInput at here
      split at here
      · cases here
        trivial
      · obtain ⟨ref, -, here⟩ := Eff.bind_out_ok.mp here
        exact lookUp_grounded known here

theorem candidates_known {stores : DataStores} {candidates : List CourseSection}
    (known : Grounded stores value) (listed : candidateSections value = some candidates) :
    candidates.Sublist stores.catalog := by
  unfold candidateSections at listed
  split at listed
  · cases listed
    exact known
  all_goals first
    | (cases listed; exact List.nil_sublist _)
    | cases listed

theorem solve_known {stores : DataStores} {candidates : List CourseSection} {completed : List String}
    {constraints : ScheduleConstraints} {options : List ScheduleOption}
    (listed : candidates.Sublist stores.catalog)
    (ok : solve candidates completed constraints = .ok options) :
    ∀ o ∈ options, FromCatalog stores o := by
  have solvable := (solve_returns_iff candidates completed constraints).mp ⟨options, ok⟩
  have same := (solve_eq solvable).symm.trans ok
  cases same
  intro o mem
  obtain ⟨combo, found, made⟩ := List.mem_map.mp ((rank_perm _).mem_iff.mp mem)
  have sound := sound_of_found solvable found
  rw [made] at sound
  exact ⟨sound.chosen.trans listed, sound.attended, sound.total⟩

theorem mem_of_lookup {entries : Params} {key : String} (found : List.lookup key entries = some value) :
    (key, value) ∈ entries := by
  obtain ⟨before, after, same, -⟩ := List.lookup_eq_some_iff.mp found
  rw [same]
  exact List.mem_append_right _ List.mem_cons_self

theorem runSolverStep_grounded (known : AllGrounded w.stores outputs)
    (ok : (runSolverStep w step outputs).out = .ok value) : ∃ os, value = .options os ∧
      Grounded w.stores value := by
  unfold runSolverStep at ok
  split at ok
  · obtain ⟨params, resolves, ok⟩ := Eff.bind_out_ok.mp ok
    rw [Eff.lift_out] at ok
    cases solved : scheduleCsp w params with
    | error e =>
        rw [solved] at ok
        cases ok
    | ok os =>
        rw [solved] at ok
        cases ok
        refine ⟨os, rfl, ?_⟩
        have grounded := resolveSolverInputs_grounded known resolves
        unfold scheduleCsp at solved
        cases listed : candidateSections (params.get "candidates") with
        | none =>
            rw [listed] at solved
            cases solved
        | some candidates =>
            rw [listed] at solved
            obtain ⟨completed, -, solved⟩ := bind_ok.mp solved
            obtain ⟨constraints, -, solved⟩ := bind_ok.mp solved
            refine solve_known (candidates_known ?_ listed) solved
            unfold Params.get Params.get?
            cases given : params.lookup "candidates" with
            | none => trivial
            | some v => exact grounded ("candidates", v) (mem_of_lookup given)
  · cases ok
  · cases ok

end

/-! ## Every run -/

section
variable {σ : Type} (w : StepWorld) (langChain : LangChain) (client : CoreServiceClient σ)
  (service : PlanStep → σ)
variable (read : PlanStep → ReadCourse) (stamp : PlanStep → Stamp) (hex : PlanStep → String)

theorem dispatchStep_fromStores {step : PlanStep} {outputs : StepOutputs} {value : StepValue}
    (session : Option SessionContext) (known : AllGrounded w.stores outputs)
    (ok : (dispatchStep (lawfulStepHandlers w langChain client service read stamp hex).toHandlers step outputs
      session).out = .ok value) : FromStores w.stores step value := by
  unfold dispatchStep at ok
  cases agent : step.agentType with
  | query =>
      rw [agent] at ok
      simp only [Eff.lift_out] at ok
      refine ⟨runQueryStep_grounded ok, fun reasoning => ?_⟩
      rw [agent] at reasoning
      cases reasoning
  | action =>
      rw [agent] at ok
      obtain ⟨d, -, ok⟩ := Eff.bind_out_ok.mp ok
      cases ok
      refine ⟨trivial, fun reasoning => ?_⟩
      rw [agent] at reasoning
      cases reasoning
  | reasoning =>
      rw [agent] at ok
      simp only [Eff.lift_out] at ok
      obtain ⟨grounded, recommends⟩ := runReasoningStep_known known ok
      exact ⟨grounded, fun _ => recommends⟩
  | constraintSolver =>
      rw [agent] at ok
      simp only [Eff.lift_out] at ok
      obtain ⟨os, same, grounded⟩ := runSolverStep_grounded known ok
      refine ⟨grounded, fun reasoning => ?_⟩
      rw [agent] at reasoning
      cases reasoning

variable (order : Superstep.MergeOrder Update) {p : Plan} (session : Option SessionContext)

/-- By induction on the level of a step, since it only sees outputs of lower levels. -/
theorem valueOf_fromStores {s : PlanStep} (mem : s ∈ p.steps) :
    FromStores w.stores s
      (valueOf (lawfulStepHandlers w langChain client service read stamp hex) p order session s) := by
  generalize known : level p s.stepId = n
  induction n using Nat.strong_induction_on generalizing s with
  | _ n ih =>
      have inputs : AllGrounded w.stores
          (inputOf (lawfulStepHandlers w langChain client service read stamp hex) p order session s).stepOutputs := by
        intro i value found
        by_cases inside : i ∈ stepIds p.steps
        · obtain ⟨a, memA, same⟩ := mem_stepIds.mp inside
          subst same
          rw [inputOf_lookup _ p order session s memA] at found
          split at found
          · rename_i below
            cases found
            exact (ih _ (known ▸ below) memA rfl).grounded
          · cases found
        · rw [inputOf_unknown _ p order session s inside] at found
          cases found
      rw [valueOf]
      cases returned : outcomeOf (lawfulStepHandlers w langChain client service read stamp hex) p order session s with
      | error e => exact ⟨trivial, fun _ v same => by cases same⟩
      | ok value =>
          rw [outcomeOf_eq] at returned
          exact dispatchStep_fromStores w langChain client service read stamp hex session inputs returned

/-- Whatever plan the model makes up, every output of a run comes from the stores: no step yields a
section that the catalog does not have, a schedule that cannot be attended, entries of a transcript, a
program or a chunk that are not stored, or a recommendation of anything else. -/
theorem plan_grounded (limits : GraphLimits) (state : AgentView) {result : PlanningResult}
    (ok : (planned limits (lawfulStepHandlers w langChain client service read stamp hex).toHandlers order p
      state).out = .ok result) (i : Int) (value : StepValue)
    (output : result.stepOutputs.lookup i = some value) :
    ∃ step ∈ p.steps, step.stepId = i ∧ FromStores w.stores step value := by
  obtain ⟨session, -, same⟩ := planned_ok limits _ order ok
  subst same
  have done := progress (lawfulStepHandlers w langChain client service read stamp hex) p order (some session)
    (height p)
  by_cases inside : i ∈ stepIds p.steps
  · obtain ⟨step, mem, same⟩ := mem_stepIds.mp inside
    refine ⟨step, mem, same, ?_⟩
    subst same
    have last : (stateAt (lawfulStepHandlers w langChain client service read stamp hex) p order (some session)
        (height p)).stepOutputs.lookup step.stepId = some value := output
    rw [done.outputs step mem, if_pos (level_lt_height p mem)] at last
    cases last
    exact valueOf_fromStores w langChain client service read stamp hex order (some session) mem
  · have none : (stateAt (lawfulStepHandlers w langChain client service read stamp hex) p order (some session)
        (height p)).stepOutputs.lookup i = none := done.known i inside
    have last : (stateAt (lawfulStepHandlers w langChain client service read stamp hex) p order (some session)
        (height p)).stepOutputs.lookup i = some value := output
    rw [none] at last
    cases last

end

/-! A plan reads what a student has passed, what the program still asks for and what is offered, and
recommends a schedule. -/

open References (transcriptStep)

def programStep : PlanStep where
  stepId := 1
  description := "Read the degree program"
  agentType := .query
  querySource := some .degreeDb
  queryParams := some [("major", .str "CS"), ("track", .str "AI"), ("cohort", .str "2024-2027")]
  valid := rfl

def electivesStep : PlanStep where
  stepId := 2
  description := "Find the missing electives"
  dependsOn := [0, 1]
  agentType := .reasoning
  reasoningTemplate := some "extract_unsatisfied_elective_pool"
  reasoningInputs := some [0, 1]
  valid := rfl

def sectionsStep : PlanStep where
  stepId := 3
  description := "List the sections"
  agentType := .query
  querySource := some .catalogDb
  queryParams := some [("term", .str "S26")]
  valid := rfl

def scheduleStep : PlanStep where
  stepId := 4
  description := "Find schedules"
  dependsOn := [0, 3]
  agentType := .constraintSolver
  solverType := some .scheduleCsp
  solverInputs := some [("candidates", .str "<from_step_3>"), ("completed", .str "<from_step_0>")]
  valid := rfl

def recommendStep : PlanStep where
  stepId := 5
  description := "Recommend a schedule"
  dependsOn := [4]
  agentType := .reasoning
  reasoningTemplate := some "explain_schedule_recommendation"
  reasoningInputs := some [4]
  valid := rfl

def advisingPlan : Model.Schemas.Plan where
  steps := [transcriptStep, programStep, electivesStep, sectionsStep, scheduleStep, recommendStep]
  reasoning := "plan next semester"
  accepted := accepted_of_lt (by decide) (by decide) (by decide)

def advised : Except PyExc PlanningResult :=
  (planned Transcripts.wideLimits mockHandlers.toHandlers keepOrder advisingPlan
    (studentView "u1" "session-1" "plan my semester" [] none)).out

def recommendation : String :=
  "Recommended schedule: CS401, CS402, CS403, CS404, MATH210 (16 credits). " ++
    "All listed courses have prereqs met and no time conflicts."

def textOf : StepValue → Option String
  | .json (.str text) => some text
  | _ => none

theorem textOf_some {v : StepValue} {text : String} (written : textOf v = some text) :
    v = .json (.str text) := by
  unfold textOf at written
  split at written
  · cases written
    rfl
  · cases written

theorem advised_recommends : ∃ result, advised = .ok result ∧
    result.stepOutputs.lookup 5 = some (.json (.str recommendation)) := by
  have shown : advised.toOption.bind (fun result => (result.stepOutputs.lookup 5).bind textOf) =
      some recommendation := by
    decide +kernel
  obtain ⟨result, ran, output⟩ := Option.bind_eq_some_iff.mp shown
  obtain ⟨value, found, written⟩ := Option.bind_eq_some_iff.mp output
  refine ⟨result, ?_, by rw [found, textOf_some written]⟩
  cases returned : advised with
  | error e =>
      rw [returned] at ran
      cases ran
  | ok result' =>
      rw [returned] at ran
      cases ran
      rfl

theorem recommendation_grounded : ∃ step ∈ advisingPlan.steps, step.stepId = 5 ∧
    FromStores mockWorld.stores step (.json (.str recommendation)) := by
  obtain ⟨result, ran, output⟩ := advised_recommends
  exact plan_grounded mockWorld Invocation.textTools (databaseClient .schema)
    (fun _ => ⟨[], ⟨[], List.nodup_nil⟩, []⟩) (fun _ _ => .error ⟨.keyError, "no course"⟩)
    (fun _ => ⟨"0123456789ab", ""⟩) (fun _ => "A1B2C3") keepOrder Transcripts.wideLimits
    (studentView "u1" "session-1" "plan my semester" [] none) ran 5 _ output

end RealityAI.Proof.Grounding
