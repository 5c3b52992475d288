import RealityAI.Proof.Plan.Steps

/-!
# Which inputs the handlers of a plan accept
-/

namespace RealityAI.Proof.Plan
open Library Python Model.Schemas Model.State Model.Safety Model.PlanningAgent Model.ActionAgent
open Model.QueryAgent Model.Reasoning Model.PlanSteps InnerSafety

/-! ## Calls that return -/

def Returns {α : Type} (x : Except PyExc α) : Prop := ∃ a, x = .ok a

section
variable {α β : Type}

@[simp] theorem returns_ok (a : α) : Returns (.ok a) := ⟨a, rfl⟩

@[simp] theorem returns_pure (a : α) : Returns (pure a) := ⟨a, rfl⟩

@[simp] theorem returns_error (e : PyExc) : ¬ Returns (.error e : Except PyExc α) := nofun

@[simp] theorem returns_map (f : α → β) (x : Except PyExc α) : Returns (f <$> x) ↔ Returns x := by
  cases x with
  | ok a => exact iff_of_true (returns_ok (f a)) (returns_ok a)
  | error e => exact iff_of_false (returns_error e) (returns_error e)

@[simp] theorem error_bind (e : PyExc) (f : α → Except PyExc β) :
    (Except.error e >>= f) = .error e := rfl

@[simp] theorem ok_bind (a : α) (f : α → Except PyExc β) : (Except.ok a >>= f) = f a := rfl

theorem returns_bind {x : Except PyExc α} {f : α → Except PyExc β} :
    Returns (x >>= f) ↔ ∃ a, x = .ok a ∧ Returns (f a) := by
  cases x with
  | ok a => simp
  | error e => simp

theorem returns_eff {ω : Type} {x : Eff PyExc ω α} {f : α → Eff PyExc ω β} :
    Returns (x >>= f).out ↔ ∃ a, x.out = .ok a ∧ Returns (f a).out := by
  cases out : x.out with
  | ok a => simp [Eff.bind_ok out]
  | error e => simp [Eff.bind_error out]

theorem returns_lift {ω : Type} {x : Eff PyExc ω α} {f : α → Except PyExc β} :
    Returns (x >>= fun a => Eff.lift (f a)).out ↔ ∃ a, x.out = .ok a ∧ Returns (f a) := by
  simp only [returns_eff, Eff.lift_out]

end

/-! ## Resolved parameters -/

def meaning (b : Builtins) (outputs : StepOutputs) (v : Json) : Option StepValue :=
  match ref? b v with
  | none => some (.json v)
  | some ref => outputs.lookup ref

def solverMeaning (b : Builtins) (outputs : StepOutputs) (v : Json) : Option StepValue :=
  if (refText? v).isSome ∧ ref? b v = none then none else meaning b outputs v

def resolved (mean : Json → Option StepValue) (entries : List (String × Json)) : Params :=
  entries.map fun entry => (entry.1, (mean entry.2).getD (.json .null))

theorem items_lookup (g : Json → StepValue) (d : Dict) (key : String) :
    ((Dict.items d).map fun entry => (entry.1, g entry.2)).lookup key =
      if key ∈ Dict.keys d then some (g (Dict.get d key)) else none := by
  unfold Dict.items
  generalize Dict.keys d = keys
  induction keys with
  | nil => simp
  | cons first keys ih =>
      simp only [List.map_cons, List.lookup_cons, ih, List.mem_cons]
      by_cases same : key = first
      · simp [same]
      · have miss : (key == first) = false := beq_eq_false_iff_ne.mpr same
        simp [same, miss]

section
variable {outputs : StepOutputs} {b : Builtins}

theorem lookUp_ok {ref : Int} {missing : PyExc} {value : StepValue} :
    (lookUp outputs ref missing).out = .ok value ↔ outputs.lookup ref = some value := by
  cases found : outputs.lookup ref with
  | none => simp [lookUp_missing missing found]
  | some v => simp [lookUp_found missing found]

theorem resolveStepRef_ok {v : Json} {value : StepValue} :
    (resolveStepRef b outputs v).out = .ok value ↔ meaning b outputs v = some value := by
  unfold resolveStepRef meaning ref?
  cases text : refText? v with
  | none => simp
  | some text' =>
      cases number : b.int text' with
      | error e => simp [number, Except.toOption]
      | ok ref => simp [number, Except.toOption, lookUp_ok]

theorem resolveSolverInput_ok {w : StepWorld} {v : Json} {value : StepValue} :
    (resolveSolverInput w outputs v).out = .ok value ↔
      solverMeaning w.builtins outputs v = some value := by
  unfold resolveSolverInput solverMeaning meaning ref?
  cases text : refText? v with
  | none => simp
  | some text' =>
      cases number : w.builtins.int text' with
      | error e => simp [number, Except.toOption, Eff.lift]
      | ok ref => simp [number, Except.toOption, Eff.lift, lookUp_ok]

theorem resolveWith_ok {resolve : Json → Eff PyExc Int StepValue} {mean : Json → Option StepValue}
    (means : ∀ v value, (resolve v).out = .ok value ↔ mean v = some value)
    (entries : List (String × Json)) (params : Params) :
    (resolveWith resolve entries).out = .ok params ↔
      (∀ entry ∈ entries, (mean entry.2).isSome) ∧ params = resolved mean entries := by
  induction entries generalizing params with
  | nil =>
      simp only [resolveWith, resolved, Eff.pure_out, Except.ok.injEq, List.not_mem_nil,
        false_implies, implies_true, true_and, List.map_nil]
      exact eq_comm
  | cons entry entries ih =>
      obtain ⟨k, v⟩ := entry
      simp only [resolveWith, Eff.bind_out_ok, means, ih]
      constructor
      · rintro ⟨value, here, rest, ⟨all, rfl⟩, made⟩
        refine ⟨?_, ?_⟩
        · intro entry mem
          rcases List.mem_cons.mp mem with rfl | later
          · simp [here]
          · exact all entry later
        · simpa [resolved, here, eq_comm] using made
      · intro both
        obtain ⟨all, same⟩ := both
        obtain ⟨value, here⟩ := Option.isSome_iff_exists.mp (all _ List.mem_cons_self)
        refine ⟨value, here, _, ⟨fun entry later => all entry (List.mem_cons_of_mem _ later), rfl⟩, ?_⟩
        simp [same, resolved, here]

theorem readInputs_ok (refs : List Int) (values : List StepValue) :
    (readInputs outputs refs).out = .ok values ↔
      (∀ ref ∈ refs, (outputs.lookup ref).isSome) ∧ values = refs.filterMap fun ref => outputs.lookup ref := by
  induction refs generalizing values with
  | nil =>
      simp only [readInputs, Eff.pure_out, Except.ok.injEq, List.not_mem_nil, false_implies,
        implies_true, true_and, List.filterMap_nil]
      exact eq_comm
  | cons ref refs ih =>
      simp only [readInputs, Eff.bind_out_ok, lookUp_ok, ih]
      constructor
      · rintro ⟨value, here, rest, ⟨all, rfl⟩, made⟩
        refine ⟨?_, ?_⟩
        · intro ref' mem
          rcases List.mem_cons.mp mem with rfl | later
          · simp [here]
          · exact all ref' later
        · simpa [here, eq_comm] using made
      · intro both
        obtain ⟨all, same⟩ := both
        obtain ⟨value, here⟩ := Option.isSome_iff_exists.mp (all _ List.mem_cons_self)
        refine ⟨value, here, _, ⟨fun ref' later => all ref' (List.mem_cons_of_mem _ later), rfl⟩, ?_⟩
        simp [same, here]

end

/-! ## Sources -/

section
variable (b : Builtins) (t : ObjectTexts) (stores : DataStores) (params : Params)

def Textual (v : StepValue) : Prop := ∃ s, v = .json (.str s)

def SetLike (v : StepValue) : Prop := Returns (t.stringSet v)

def TextList (v : StepValue) : Prop := ∃ elements, t.elements v = .ok elements ∧
  ∀ x ∈ elements, ∃ s, x = .json (.str s)

def Listed (c : CourseSection) : Prop :=
  ((params.get "term").truthy = true → (params.get "term").isStr c.term = true) ∧
    ((params.get "course_codes").truthy = true →
      ∃ wanted, t.stringSet (params.get "course_codes") = .ok wanted ∧ c.courseCode ∈ wanted)

def SourceAccepts : QuerySource → Prop
  | .canvas => ∃ userId, userId ≠ "" ∧ params.get "user_id" = .json (.str userId)
  | .degreeDb =>
      (params.get "major").truthy = true ∧ (params.get "cohort").truthy = true ∧
        ∃ key, programKey (params.get "major") (params.get "track") (params.get "cohort") = some key ∧
          (stores.degreePrograms.lookup key).isSome
  | .catalogDb =>
      ((params.get "course_codes").truthy = true → SetLike t (params.get "course_codes")) ∧
        ((params.get "days_excluded").truthy = true → (∃ c ∈ stores.catalog, Listed t params c) →
          SetLike t (params.get "days_excluded"))
  | .syllabusRag =>
      (((params.get? "course_id").getD (.json (.str ""))).truthy = true →
          Textual ((params.get? "course_id").getD (.json (.str "")))) ∧
        ((params.get "_semantic_query").truthy = true → Textual (params.get "_semantic_query")) ∧
        ((params.get "_query_expansion").truthy = true → TextList t (params.get "_query_expansion"))

theorem canvas_returns_iff :
    Returns (queryCanvas t stores params) ↔ SourceAccepts t stores params .canvas := by
  unfold queryCanvas
  constructor
  · intro returns
    obtain ⟨a, ok⟩ := returns
    dsimp only at ok
    split at ok
    · cases ok
    · rename_i present
      obtain ⟨_, -, ok⟩ := bind_ok.mp ok
      split at ok
      · rename_i userId named
        refine ⟨userId, ?_, named⟩
        intro empty
        simp [named, empty, StepValue.truthy, Json.truthy] at present
      · cases ok
  · intro accepts
    obtain ⟨userId, nonempty, named⟩ := accepts
    simp [named, nonempty, StepValue.truthy, Json.truthy, ObjectTexts.hash, Json.hashable]

theorem programKey_hash {major track cohort : StepValue} {key : String × Option String × String}
    (known : programKey major track cohort = some key) :
    t.hash major = .ok () ∧ t.hash track = .ok () ∧ t.hash cohort = .ok () := by
  unfold programKey at known
  split at known
  · exact ⟨rfl, rfl, rfl⟩
  · exact ⟨rfl, rfl, rfl⟩
  · cases known

theorem degreeDb_returns_iff :
    Returns (queryDegreeDb b t stores params) ↔ SourceAccepts t stores params .degreeDb := by
  unfold queryDegreeDb
  constructor
  · intro ⟨a, ok⟩
    dsimp only at ok
    split at ok
    · cases ok
    · rename_i present
      simp only [Bool.or_eq_true, Bool.not_eq_true', not_or, Bool.not_eq_false] at present
      obtain ⟨_, -, ok⟩ := bind_ok.mp ok
      obtain ⟨_, -, ok⟩ := bind_ok.mp ok
      obtain ⟨_, -, ok⟩ := bind_ok.mp ok
      split at ok
      · rename_i program found
        obtain ⟨key, known, stored⟩ := Option.bind_eq_some_iff.mp found
        exact ⟨present.1, present.2, key, known, Option.isSome_iff_exists.mpr ⟨_, stored⟩⟩
      · cases ok
  · intro ⟨major, cohort, key, known, stored⟩
    obtain ⟨program, stored⟩ := Option.isSome_iff_exists.mp stored
    obtain ⟨first, second, third⟩ := programKey_hash t known
    simp [major, cohort, first, second, third, known, stored]

theorem mem_ofTerm {c : CourseSection} : c ∈ ofTerm (params.get "term") stores.catalog ↔
    c ∈ stores.catalog ∧ ((params.get "term").truthy = true →
      (params.get "term").isStr c.term = true) := by
  unfold ofTerm
  split
  · rename_i truthy
    simp [truthy]
  · rename_i falsy
    simp [falsy]

theorem ofCourses_returns_iff (sections : List CourseSection) :
    Returns (ofCourses t (params.get "course_codes") sections) ↔
      ((params.get "course_codes").truthy = true → SetLike t (params.get "course_codes")) := by
  unfold ofCourses SetLike
  cases truthy : (params.get "course_codes").truthy with
  | false => simp
  | true => simp

theorem mem_ofCourses {sections kept : List CourseSection}
    (ok : ofCourses t (params.get "course_codes") sections = .ok kept) {c : CourseSection} :
    c ∈ kept ↔ c ∈ sections ∧ ((params.get "course_codes").truthy = true →
      ∃ wanted, t.stringSet (params.get "course_codes") = .ok wanted ∧ c.courseCode ∈ wanted) := by
  unfold ofCourses at ok
  split at ok
  · rename_i truthy
    obtain ⟨wanted, made, ok⟩ := bind_ok.mp ok
    cases ok
    simp [truthy, made]
  · rename_i falsy
    cases ok
    simp [falsy]

theorem offDays_returns_iff (sections : List CourseSection) :
    Returns (offDays t ((params.get "days_excluded").or (.json (.arr []))) sections) ↔
      ((params.get "days_excluded").truthy = true → (∃ c, c ∈ sections) →
        SetLike t (params.get "days_excluded")) := by
  unfold offDays StepValue.or SetLike
  cases truthy : (params.get "days_excluded").truthy with
  | false => simp [StepValue.truthy, Json.truthy]
  | true =>
      cases sections with
      | nil => simp
      | cons c cs => simp [truthy]

theorem catalogDb_returns_iff :
    Returns (queryCatalogDb t stores params) ↔ SourceAccepts t stores params .catalogDb := by
  have listed {kept : List CourseSection}
      (ok : ofCourses t (params.get "course_codes") (ofTerm (params.get "term") stores.catalog) =
        .ok kept) :
      (∃ c, c ∈ kept) ↔ ∃ c ∈ stores.catalog, Listed t params c := by
    simp only [mem_ofCourses t params ok, mem_ofTerm, Listed, and_assoc]
  unfold queryCatalogDb
  rw [returns_bind, SourceAccepts, ← ofCourses_returns_iff t params]
  constructor
  · intro ⟨kept, ok, returns⟩
    rw [offDays_returns_iff, listed ok] at returns
    exact ⟨⟨kept, ok⟩, returns⟩
  · intro ⟨⟨kept, ok⟩, returns⟩
    refine ⟨kept, ok, ?_⟩
    rw [offDays_returns_iff, listed ok]
    exact returns

theorem asText_returns_iff (method : String) (v : StepValue) :
    Returns (t.asText method v) ↔ Textual v := by
  unfold ObjectTexts.asText Textual
  split
  · rename_i s
    exact iff_of_true (returns_ok s) ⟨s, rfl⟩
  · rename_i other
    exact iff_of_false (returns_error _) fun ⟨s, same⟩ => other s same

theorem element_returns_iff (method : String) (x : Element) :
    Returns (x.asText method) ↔ ∃ s, x = .json (.str s) := by
  unfold Element.asText
  split
  · rename_i s
    exact iff_of_true (returns_ok s) ⟨s, rfl⟩
  · rename_i v other
    refine iff_of_false (returns_error _) fun ⟨s, same⟩ => other s ?_
    simpa using same
  · exact iff_of_false (returns_error _) (by simp)

theorem elements_return_iff (method : String) (xs : List Element) :
    Returns (xs.mapM (Element.asText method)) ↔ ∀ x ∈ xs, ∃ s, x = .json (.str s) := by
  induction xs with
  | nil => simp
  | cons x xs ih =>
      rw [List.mapM_cons, returns_bind, List.forall_mem_cons, ← element_returns_iff method, ← ih]
      constructor
      · intro ⟨s, here, returns⟩
        obtain ⟨rest, later, -⟩ := returns_bind.mp returns
        exact ⟨⟨s, here⟩, rest, later⟩
      · intro ⟨⟨s, here⟩, rest, later⟩
        exact ⟨s, here, returns_bind.mpr ⟨rest, later, returns_pure _⟩⟩

theorem expansion_returns_iff :
    (∃ elements, t.elements ((params.get "_query_expansion").or (.json (.arr []))) = .ok elements ∧
      Returns (elements.mapM (Element.asText "lower"))) ↔
      ((params.get "_query_expansion").truthy = true →
        TextList t (params.get "_query_expansion")) := by
  simp only [elements_return_iff, StepValue.or, TextList]
  cases truthy : (params.get "_query_expansion").truthy with
  | false => simp [ObjectTexts.elements]
  | true => simp

theorem primary_returns_iff (text : String) :
    Returns (t.asText "lower" ((params.get "_semantic_query").or (.json (.str text)))) ↔
      ((params.get "_semantic_query").truthy = true → Textual (params.get "_semantic_query")) := by
  simp only [asText_returns_iff, StepValue.or]
  cases truthy : (params.get "_semantic_query").truthy with
  | false => simp [Textual]
  | true => simp

theorem syllabusQueries_returns_iff (courseId topic : StepValue) :
    Returns (syllabusQueries b t params courseId topic) ↔
      ((params.get "_semantic_query").truthy = true → Textual (params.get "_semantic_query")) ∧
        ((params.get "_query_expansion").truthy = true →
          TextList t (params.get "_query_expansion")) := by
  unfold syllabusQueries
  rw [← expansion_returns_iff t params, ← primary_returns_iff t params, returns_bind]
  constructor
  · intro ⟨elements, made, returns⟩
    obtain ⟨primary, first, returns⟩ := returns_bind.mp returns
    obtain ⟨texts, rest, -⟩ := returns_bind.mp returns
    exact ⟨⟨primary, first⟩, elements, made, texts, rest⟩
  · intro ⟨⟨primary, first⟩, elements, made, texts, rest⟩
    exact ⟨elements, made, returns_bind.mpr
      ⟨primary, first, returns_bind.mpr ⟨texts, rest, returns_pure _⟩⟩⟩

theorem upperCourse_returns_iff (courseId : StepValue) :
    Returns (upperCourse b t courseId) ↔ (courseId.truthy = true → Textual courseId) := by
  unfold upperCourse
  split
  · rename_i truthy
    simp [truthy, asText_returns_iff]
  · rename_i falsy
    simp [falsy]

theorem syllabusRag_returns_iff :
    Returns (querySyllabusRag b t stores params) ↔ SourceAccepts t stores params .syllabusRag := by
  unfold querySyllabusRag
  rw [SourceAccepts, ← upperCourse_returns_iff b t, ← syllabusQueries_returns_iff b t params _
    ((params.get? "topic").getD (.json (.str ""))), returns_bind]
  constructor
  · intro ⟨upper, here, returns⟩
    obtain ⟨queries, later, -⟩ := returns_bind.mp returns
    exact ⟨⟨upper, here⟩, queries, later⟩
  · intro ⟨⟨upper, here⟩, queries, later⟩
    exact ⟨upper, here, returns_bind.mpr ⟨queries, later, returns_pure _⟩⟩

theorem sourceHandler_returns_iff (source : QuerySource) :
    Returns (sourceHandler b t stores source params) ↔ SourceAccepts t stores params source := by
  cases source with
  | canvas =>
      rw [sourceHandler, returns_map]
      exact canvas_returns_iff t stores params
  | degreeDb =>
      rw [sourceHandler, returns_map]
      exact degreeDb_returns_iff b t stores params
  | catalogDb =>
      rw [sourceHandler, returns_map]
      exact catalogDb_returns_iff t stores params
  | syllabusRag =>
      rw [sourceHandler, returns_map]
      exact syllabusRag_returns_iff b t stores params

end

/-! ## Reasoning templates -/

def TemplateAccepts (template : String) (inputs : List StepValue) : Prop :=
  (template = "extract_unsatisfied_elective_pool" ∧
      (∃ d, .program d ∈ inputs) ∧ ∃ t, .transcript t ∈ inputs) ∨
    (template = "explain_schedule_recommendation" ∧
      ∃ v, inputs.find? StepValue.isList = some v ∧ (v.truthy = true → ∃ os, v = .options os))

theorem expectProgram_returns_iff (inputs : List StepValue) :
    Returns (expectProgram inputs) ↔ ∃ d, .program d ∈ inputs := by
  unfold expectProgram
  split
  · rename_i d found
    obtain ⟨v, mem, same⟩ := List.exists_of_findSome?_eq_some found
    split at same
    · rename_i d'
      exact iff_of_true (returns_ok d) ⟨d', mem⟩
    · cases same
  · rename_i none
    rw [List.findSome?_eq_none_iff] at none
    exact iff_of_false (returns_error _) fun ⟨d, mem⟩ => by simpa using none _ mem

theorem expectTranscript_returns_iff (inputs : List StepValue) :
    Returns (expectTranscript inputs) ↔ ∃ t, .transcript t ∈ inputs := by
  unfold expectTranscript
  split
  · rename_i t found
    obtain ⟨v, mem, same⟩ := List.exists_of_findSome?_eq_some found
    split at same
    · rename_i t'
      exact iff_of_true (returns_ok t) ⟨t', mem⟩
    · cases same
  · rename_i none
    rw [List.findSome?_eq_none_iff] at none
    exact iff_of_false (returns_error _) fun ⟨t, mem⟩ => by simpa using none _ mem

theorem explainSchedule_returns_iff (v : StepValue) :
    Returns (explainSchedule v) ↔ (v.truthy = true → ∃ os, v = .options os) := by
  unfold explainSchedule
  cases truthy : v.truthy with
  | false => simp
  | true =>
      simp only [Bool.not_true, Bool.false_eq_true, if_false, true_implies]
      split
      · rename_i top rest
        exact iff_of_true (returns_ok _) ⟨top :: rest, rfl⟩
      · rename_i other
        refine iff_of_false (returns_error _) fun ⟨os, same⟩ => ?_
        subst same
        cases os with
        | nil => cases truthy
        | cons o os => exact other o os rfl

theorem extract_returns_iff (inputs : List StepValue) :
    Returns (applyTemplate "extract_unsatisfied_elective_pool" inputs) ↔
      (∃ d, .program d ∈ inputs) ∧ ∃ t, .transcript t ∈ inputs := by
  rw [applyTemplate, if_pos rfl, ← expectProgram_returns_iff, ← expectTranscript_returns_iff,
    returns_bind]
  constructor
  · intro ⟨d, program, returns⟩
    obtain ⟨t, transcript, -⟩ := returns_bind.mp returns
    exact ⟨⟨d, program⟩, t, transcript⟩
  · intro ⟨⟨d, program⟩, t, transcript⟩
    exact ⟨d, program, returns_bind.mpr ⟨t, transcript, returns_pure _⟩⟩

theorem explain_returns_iff (inputs : List StepValue) :
    Returns (applyTemplate "explain_schedule_recommendation" inputs) ↔
      ∃ v, inputs.find? StepValue.isList = some v ∧ (v.truthy = true → ∃ os, v = .options os) := by
  simp only [← explainSchedule_returns_iff]
  rw [applyTemplate, if_neg (by decide), if_pos rfl, returns_bind, expectList]
  constructor
  · intro ⟨v, first, returns⟩
    split at first
    · rename_i v' found
      cases first
      obtain ⟨text, explained, -⟩ := returns_bind.mp returns
      exact ⟨_, found, text, explained⟩
    · cases first
  · intro ⟨v, found, text, explained⟩
    exact ⟨v, by rw [found], returns_bind.mpr ⟨text, explained, returns_pure _⟩⟩

theorem applyTemplate_returns_iff (template : String) (inputs : List StepValue) :
    Returns (applyTemplate template inputs) ↔ TemplateAccepts template inputs := by
  unfold TemplateAccepts
  by_cases extract : template = "extract_unsatisfied_elective_pool"
  · subst extract
    rw [extract_returns_iff]
    simp
  · by_cases explain : template = "explain_schedule_recommendation"
    · subst explain
      rw [explain_returns_iff]
      simp
    · rw [applyTemplate, if_neg extract, if_neg explain]
      refine iff_of_false (returns_error _) ?_
      simp [extract, explain]

/-! ## The solver -/

def Comparable (timeRange : Option (ClockTime × ClockTime)) : List MeetingTime → Prop
  | [] => True
  | m :: _ => ∀ range, timeRange = some range →
      range.1.aware = false ∧ (m.start < range.1.micros ∨ range.2.aware = false)

structure Solvable (candidates : List CourseSection) (completed : List String)
    (constraints : ScheduleConstraints) : Prop where
  comparable : ∀ c ∈ candidates, c.hasMeetingOnDays constraints.daysExcluded = false →
    (∀ p ∈ c.prereqs, p ∈ completed) → Comparable constraints.timeRange c.meetings
  sizes : constraints.maxCourses < constraints.minCourses ∨ 0 ≤ constraints.minCourses

theorem withinRange_returns (lo hi : ClockTime) (ms : List MeetingTime)
    (naive : lo.aware = false ∧ hi.aware = false) : Returns (withinRange lo hi ms) := by
  induction ms with
  | nil => simp [withinRange]
  | cons m ms ih =>
      rw [withinRange, returns_bind]
      by_cases early : m.start < lo.micros
      · exact ⟨true, by simp [outsideRange, naive, early], by simp⟩
      · by_cases late : hi.micros < m.«end»
        · exact ⟨true, by simp [outsideRange, naive, early, late], by simp⟩
        · exact ⟨false, by simp [outsideRange, naive, early, late], by simpa using ih⟩

theorem withinRange_returns_iff (lo hi : ClockTime) (ms : List MeetingTime) :
    Returns (withinRange lo hi ms) ↔ Comparable (some (lo, hi)) ms := by
  cases ms with
  | nil => simp [withinRange, Comparable]
  | cons m ms =>
      simp only [Comparable, Option.some.injEq, forall_eq']
      cases low : lo.aware with
      | true => simp [withinRange, outsideRange, low]
      | false =>
          by_cases early : m.start < lo.micros
          · simp [withinRange, outsideRange, low, early]
          · cases high : hi.aware with
            | true => simp [withinRange, outsideRange, low, early, high]
            | false => simp [early, withinRange_returns lo hi (m :: ms) ⟨low, high⟩]

theorem meetsHardConstraints_returns_iff (c : CourseSection) (completed : List String)
    (constraints : ScheduleConstraints) :
    Returns (meetsHardConstraints c completed constraints) ↔
      (c.hasMeetingOnDays constraints.daysExcluded = false →
        (∀ p ∈ c.prereqs, p ∈ completed) → Comparable constraints.timeRange c.meetings) := by
  unfold meetsHardConstraints
  cases off : c.hasMeetingOnDays constraints.daysExcluded with
  | true => simp
  | false =>
      by_cases unmet : c.prereqs.any (fun p => p ∉ completed) = true
      · rw [if_neg Bool.false_ne_true, if_pos unmet]
        simp only [List.any_eq_true, decide_eq_true_eq] at unmet
        obtain ⟨p, mem, absent⟩ := unmet
        exact iff_of_true (returns_ok _) fun _ all => absurd (all p mem) absent
      · rw [if_neg Bool.false_ne_true, if_neg unmet]
        have met : ∀ p ∈ c.prereqs, p ∈ completed := by simpa using unmet
        cases range : constraints.timeRange with
        | none =>
            refine iff_of_true (returns_ok _) fun _ _ => ?_
            cases c.meetings <;> simp [Comparable]
        | some range' =>
            simp only [true_implies]
            rw [withinRange_returns_iff]
            exact ⟨fun comparable _ => comparable, fun comparable => comparable met⟩

theorem validSections_returns_iff (completed : List String) (constraints : ScheduleConstraints)
    (candidates : List CourseSection) :
    Returns (validSections completed constraints candidates) ↔
      ∀ c ∈ candidates, Returns (meetsHardConstraints c completed constraints) := by
  induction candidates with
  | nil => simp [validSections]
  | cons c cs ih =>
      rw [validSections, returns_bind, List.forall_mem_cons, ← ih]
      constructor
      · intro ⟨meets, here, returns⟩
        obtain ⟨rest, later, -⟩ := returns_bind.mp returns
        exact ⟨⟨meets, here⟩, rest, later⟩
      · intro ⟨⟨meets, here⟩, rest, later⟩
        exact ⟨meets, here, returns_bind.mpr ⟨rest, later, returns_pure _⟩⟩

theorem searchSizes_returns_iff (constraints : ScheduleConstraints) (valid : List CourseSection)
    (sizes : List Int) (k : SolveState) :
    Returns (searchSizes constraints valid sizes k) ↔ ∀ size ∈ sizes, 0 ≤ size := by
  induction sizes generalizing k with
  | nil => simp [searchSizes]
  | cons size rest ih =>
      rw [searchSizes, List.forall_mem_cons]
      by_cases negative : size < 0
      · rw [if_pos negative]
        exact iff_of_false (returns_error _) fun all => absurd all.1 (by omega)
      · rw [if_neg negative, ih]
        exact ⟨fun all => ⟨by omega, all⟩, fun all => all.2⟩

theorem sizes_nonneg_iff (constraints : ScheduleConstraints) :
    (∀ size ∈ sizes constraints, 0 ≤ size) ↔
      constraints.maxCourses < constraints.minCourses ∨ 0 ≤ constraints.minCourses := by
  simp only [sizes, List.mem_map, List.mem_range, forall_exists_index, and_imp,
    forall_apply_eq_imp_iff₂]
  constructor
  · intro all
    by_cases none : constraints.maxCourses < constraints.minCourses
    · exact .inl none
    · have first := all 0 (by omega)
      exact .inr (by omega)
  · intro either i below
    omega

theorem solve_returns_iff (candidates : List CourseSection) (completed : List String)
    (constraints : ScheduleConstraints) :
    Returns (solve candidates completed constraints) ↔ Solvable candidates completed constraints := by
  have parts : Solvable candidates completed constraints ↔
      Returns (validSections completed constraints candidates) ∧
        ∀ size ∈ sizes constraints, 0 ≤ size := by
    simp only [validSections_returns_iff, meetsHardConstraints_returns_iff, sizes_nonneg_iff]
    exact ⟨fun solvable => ⟨solvable.comparable, solvable.sizes⟩, fun both => ⟨both.1, both.2⟩⟩
  unfold solve
  rw [parts, returns_bind]
  constructor
  · intro ⟨valid, ok, returns⟩
    obtain ⟨found, searched, -⟩ := returns_bind.mp returns
    exact ⟨⟨valid, ok⟩, (searchSizes_returns_iff _ _ _ _).mp ⟨found, searched⟩⟩
  · intro ⟨⟨valid, ok⟩, nonneg⟩
    obtain ⟨found, searched⟩ := (searchSizes_returns_iff constraints valid _ ⟨[], []⟩).mpr nonneg
    exact ⟨valid, ok, returns_bind.mpr ⟨found, searched, returns_pure _⟩⟩

def CspAccepts (w : StepWorld) (inputs : Params) : Prop :=
  ∃ candidates completed constraints,
    candidateSections (inputs.get "candidates") = some candidates ∧
      completedSet w (inputs.get "completed") = .ok completed ∧
      w.validateConstraints ((inputs.get "constraints").or (.json (.obj []))) = .ok constraints ∧
      Solvable candidates completed constraints

theorem scheduleCsp_returns_iff (w : StepWorld) (inputs : Params) :
    Returns (scheduleCsp w inputs) ↔ CspAccepts w inputs := by
  unfold scheduleCsp CspAccepts
  cases known : candidateSections (inputs.get "candidates") with
  | none => simp
  | some candidates =>
      simp only [returns_bind, solve_returns_iff, Option.some.injEq]
      constructor
      · intro ⟨completed, first, constraints, second, solvable⟩
        exact ⟨candidates, completed, constraints, rfl, first, second, solvable⟩
      · intro ⟨_, completed, constraints, same, first, second, solvable⟩
        subst same
        exact ⟨completed, first, constraints, second, solvable⟩

/-! ## Steps -/

/-- What the handler of a query, reasoning or solver step demands of its inputs. -/
def Accepts (w : StepWorld) (s : PlanStep) (outputs : StepOutputs) : Prop :=
  match s.agentType with
  | .query => ∃ source params, s.querySource = some source ∧ s.queryParams = some params ∧
      (∀ entry ∈ params.items, (meaning w.builtins outputs entry.2).isSome) ∧
      SourceAccepts w.objects w.stores
        (reformulated s (resolved (meaning w.builtins outputs) params.items)) source
  | .action => False
  | .reasoning =>
      (∀ ref ∈ s.reasoningInputs.getD [], (outputs.lookup ref).isSome) ∧
        TemplateAccepts (s.reasoningTemplate.getD "None")
          ((s.reasoningInputs.getD []).filterMap fun ref => outputs.lookup ref)
  | .constraintSolver => s.solverType = some .scheduleCsp ∧
      (∀ entry ∈ (s.solverInputs.getD []).items,
        (solverMeaning w.builtins outputs entry.2).isSome) ∧
      CspAccepts w (resolved (solverMeaning w.builtins outputs) (s.solverInputs.getD []).items)

theorem runQueryStep_returns_iff (w : StepWorld) (s : PlanStep) (outputs : StepOutputs)
    (query : s.agentType = .query) :
    Returns (runQueryStep w.builtins w.objects w.stores s outputs).out ↔ Accepts w s outputs := by
  obtain ⟨source, params, hasSource, hasParams⟩ := query_fields s query
  simp only [runQueryStep, hasSource, hasParams, Accepts, query, resolveStepRefs, returns_lift,
    resolveWith_ok fun _ _ => resolveStepRef_ok, returns_map, sourceHandler_returns_iff]
  simp

theorem runReasoningStep_returns_iff (w : StepWorld) (s : PlanStep) (outputs : StepOutputs)
    (reasoning : s.agentType = .reasoning) :
    Returns (runReasoningStep s outputs).out ↔ Accepts w s outputs := by
  simp only [runReasoningStep, Accepts, reasoning, returns_lift, readInputs_ok,
    applyTemplate_returns_iff]
  simp

theorem runSolverStep_returns_iff (w : StepWorld) (s : PlanStep) (outputs : StepOutputs)
    (solver : s.agentType = .constraintSolver) :
    Returns (runSolverStep w s outputs).out ↔ Accepts w s outputs := by
  simp only [runSolverStep, Accepts, solver]
  cases chosen : s.solverType with
  | none => simp
  | some solverType =>
      cases solverType with
      | prereqCheck => simp
      | scheduleCsp =>
          simp only [resolveSolverInputs, returns_lift, returns_map, scheduleCsp_returns_iff,
            resolveWith_ok fun _ _ => resolveSolverInput_ok]
          simp

theorem dispatchStep_returns_iff (w : StepWorld) (world : PlanStep → World) (s : PlanStep)
    (outputs : StepOutputs) (session : Option SessionContext) (reads : s.agentType ≠ .action) :
    Returns (dispatchStep (stepHandlers w world) s outputs session).out ↔ Accepts w s outputs := by
  unfold dispatchStep
  cases kind : s.agentType with
  | query =>
      rw [Eff.lift_out]
      exact runQueryStep_returns_iff w s outputs kind
  | action => exact absurd kind reads
  | reasoning =>
      rw [Eff.lift_out]
      exact runReasoningStep_returns_iff w s outputs kind
  | constraintSolver =>
      rw [Eff.lift_out]
      exact runSolverStep_returns_iff w s outputs kind

end RealityAI.Proof.Plan
