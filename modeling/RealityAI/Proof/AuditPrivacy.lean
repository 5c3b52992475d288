import RealityAI.Proof.AuditTrail
import RealityAI.Python.Builtins

/-!
# Which argument values reach the audit log

Two attempts that differ in the values of their arguments are compared by the records they hand to
`persist_audit_record`.
-/

namespace RealityAI.Proof.AuditPrivacy
open Library Python Model.Safety Model.Schemas Model.ActionAgent InnerSafety ActionAgent Invocation
open ActionPaths AuditTrail

/-! ## Attempts that agree up to values -/

/-- The layer with its decision and reason code; the human reason is not part of the record. -/
abbrev LayerVerdict := InnerLayerName × InnerSafetyDecision × String

def verdictOf (r : LayerResult) : LayerVerdict := (r.layer, r.decision, r.reasonCode)

def verdicts (rt : Runtime) (w : World) (input : InnerSafetyInput) : Option (List LayerVerdict) :=
  (innerSafetyCheck rt w.readCourseState w.stamp input).out.toOption.map fun result =>
    result.layerResults.map verdictOf

def failureText : Except PyExc Returned → Json
  | .ok (.dict raw) => raw.get "message"
  | .ok .toolMessage => .str noGet.text
  | .error e => .str e.text

/-- Two attempts of one session and tool that differ in values and worlds only. -/
structure Similar (rt : Runtime) (w w' : World) (input input' : InnerSafetyInput) : Prop where
  session : input.session = input'.session
  tool : input.toolName = input'.toolName
  keys : ∀ key, Dict.has input.toolArgs key = Dict.has input'.toolArgs key
  verdicts : verdicts rt w input = verdicts rt w' input'
  outcome : AllAllowed rt w.readCourseState input → ∀ tool, input.toolName = toolName tool →
    ranWell w tool input.toolArgs = ranWell w' tool input'.toolArgs

/-- The records are the same but for their ids and times. -/
def SameRecords (log log' : List Event) : Prop :=
  (records log).map unstamped = (records log').map unstamped

/-- What two tools hand back leaves the same record: a success, or failures with the same text. The
standalone agent leaves none of a `ToolMessage`. -/
structure Alike (path : Path) (returned returned' : Except PyExc Returned) : Prop where
  message : path = .standalone → (returned = .ok .toolMessage ↔ returned' = .ok .toolMessage)
  success : reportsSuccess returned = reportsSuccess returned'
  text : reportsSuccess returned = true ∨ failureText returned = failureText returned'

/-- The tools are not called, or hand back alike. -/
def Discreet (path : Path) (rt : Runtime) (w w' : World) (input input' : InnerSafetyInput) : Prop :=
  AllAllowed rt w.readCourseState input → ∀ tool, input.toolName = toolName tool →
    Alike path (outcome w tool input.toolArgs) (outcome w' tool input'.toolArgs)

/-! ## Keys -/

theorem mem_keys_iff {d : Dict} {key : String} : key ∈ Dict.keys d ↔ Dict.has d key = true := by
  rw [Dict.keys, List.mem_dedup, Dict.has, Dict.get?]
  constructor
  · intro mem
    by_contra missing
    rw [Bool.not_eq_true, Option.isSome_eq_false_iff, Option.isNone_iff_eq_none,
      List.lookup_eq_none_iff] at missing
    obtain ⟨entry, here, rfl⟩ := List.mem_map.mp mem
    simpa using missing entry here
  · intro here
    obtain ⟨v, found⟩ := Option.isSome_iff_exists.mp here
    obtain ⟨before, after, split, -⟩ := List.lookup_eq_some_iff.mp found
    rw [split]
    exact List.mem_map_of_mem (List.mem_append_right before List.mem_cons_self)

theorem argsKeys_congr {d d' : Dict} (keys : ∀ key, Dict.has d key = Dict.has d' key) :
    sorted (Dict.keys d) = sorted (Dict.keys d') := by
  apply sorted_congr
  apply (List.perm_ext_iff_of_nodup (List.nodup_dedup _) (List.nodup_dedup _)).mpr
  intro key
  exact mem_keys_iff.trans (keys key ▸ mem_keys_iff.symm)

/-! ## The record of the gate -/

def judgedRecord (stamp : Stamp) (input : InnerSafetyInput) (v : LayerVerdict) : AuditRecord :=
  if v.2.1 = .deny then buildAuditRecord stamp input .deny (some v.1) v.2.2
  else buildAuditRecord stamp input .allow none "all_layers_passed"

section
variable {rt : Runtime} {w w' : World} {input input' : InnerSafetyInput}

theorem judgedRecord_congr (similar : Similar rt w w' input input') (stamp stamp' : Stamp)
    (v : LayerVerdict) :
    unstamped (judgedRecord stamp input v) = unstamped (judgedRecord stamp' input' v) := by
  have keys := argsKeys_congr similar.keys
  unfold judgedRecord buildAuditRecord unstamped
  rw [similar.session, similar.tool, keys]
  split <;> rfl

theorem innerShortCircuit_judged {stamp : Stamp} {blocking : LayerResult}
    (layerResults : List LayerResult) (deny : blocking.decision ≠ .allow)
    {result : InnerSafetyResult}
    (judged : (innerShortCircuit stamp input (layerResults ++ [blocking]) blocking).out = .ok result) :
    (result.layerResults.map verdictOf).getLast? = some (verdictOf blocking) ∧
      result.audit = judgedRecord stamp input (verdictOf blocking) := by
  have deny := decision_deny deny
  rw [innerShortCircuit_eq _ _ _ deny] at judged
  cases judged
  constructor
  · rw [denial, List.map_append, List.map_singleton, List.getLast?_concat]
  · rw [judgedRecord, if_pos (show (verdictOf blocking).2.1 = .deny from deny)]
    rfl

theorem innerSafetyCheck_judged {stamp : Stamp} {read : ReadCourse} {result : InnerSafetyResult}
    (judged : (innerSafetyCheck rt read stamp input).out = .ok result) :
    ∃ v, (result.layerResults.map verdictOf).getLast? = some v ∧
      result.audit = judgedRecord stamp input v := by
  unfold innerSafetyCheck at judged
  dsimp only at judged
  split at judged
  · exact ⟨_, innerShortCircuit_judged [] ‹_› judged⟩
  split at judged
  · exact ⟨_, innerShortCircuit_judged [_] ‹_› judged⟩
  cases found : checkParameterFormat rt input with
  | error e =>
      rw [found] at judged
      cases judged
  | ok r =>
      rw [found, show (Eff.lift (.ok r) : Eff PyExc Event LayerResult) = pure r from rfl,
        Eff.pure_bind'] at judged
      split at judged
      · exact ⟨_, innerShortCircuit_judged [_, _] ‹_› judged⟩
      split at judged
      · exact ⟨_, innerShortCircuit_judged [_, _, _] ‹_› judged⟩
      rename_i allowed
      cases judged
      refine ⟨verdictOf (checkLiveState rt read input), rfl, ?_⟩
      have allow : (verdictOf (checkLiveState rt read input)).2.1 ≠ .deny := by
        rw [show (verdictOf (checkLiveState rt read input)).2.1 = .allow from not_not.mp allowed]
        exact nofun
      rw [judgedRecord, if_neg allow]
      rfl

/-! ## The record of an attempt -/

inductive Recorded (path : Path) (rt : Runtime) (w : World) (input : InnerSafetyInput) :
    Option InnerSafetyResult → List AuditRecord → Prop
  | raised : ¬ AllAllowed rt w.readCourseState input → Recorded path rt w input none []
  | denied {result : InnerSafetyResult} : ¬ AllAllowed rt w.readCourseState input →
      result.audit.decision = .deny → Recorded path rt w input (some result) [result.audit]
  | executed {result : InnerSafetyResult} (tool : ActionTool) :
      AllAllowed rt w.readCourseState input → result.audit.decision = .allow →
      input.toolName = toolName tool →
      (path = .standalone → outcome w tool input.toolArgs ≠ .ok .toolMessage) →
      Recorded path rt w input (some result)
        [executionRecord result (outcome w tool input.toolArgs)]
  | lost {result : InnerSafetyResult} (tool : ActionTool) :
      AllAllowed rt w.readCourseState input → result.audit.decision = .allow →
      input.toolName = toolName tool → path = .standalone →
      outcome w tool input.toolArgs = .ok .toolMessage → Recorded path rt w input (some result) []

variable (path : Path)

variable (rt w input) in
theorem attempt_recorded : Recorded path rt w input
    (innerSafetyCheck rt w.readCourseState w.stamp input).out.toOption
    (records (attempt path rt w input).log) := by
  have run := gateRun rt w.readCourseState w.stamp input
  unfold attempt
  generalize innerSafetyCheck rt w.readCourseState w.stamp input = gate at run ⊢
  cases run with
  | raised raises => exact .raised fun allowed => allowed.not_raises raises
  | denied layerResults first => exact .denied first.not_allowed rfl
  | allowed layerResults allowed =>
      obtain ⟨tool, name⟩ := allowed_registered allowed
      rw [name, findTool_toolName]
      show Recorded path rt w input (some (innerAllAllowed w.stamp input layerResults))
        (records (calls w tool input.toolArgs ++ (audited path
          (innerAllAllowed w.stamp input layerResults) (outcome w tool input.toolArgs)).log))
      rw [records_calls_append]
      by_cases handled : path = .standalone → outcome w tool input.toolArgs ≠ .ok .toolMessage
      · rw [audited_eq path _ _ handled]
        exact .executed tool allowed rfl name handled
      · obtain ⟨standalone, message⟩ := Classical.not_imp.mp handled
        rw [not_not.mp message, standalone]
        exact .lost tool allowed rfl name rfl (not_not.mp message)

theorem stepExecution_outcome (returned : Except PyExc Returned) :
    (stepExecution "" returned).2 =
      (reportsSuccess returned, if reportsSuccess returned then .null else failureText returned) := by
  rcases returned with e | handed
  · rfl
  · cases handed <;> rfl

theorem unstamped_executed (result : InnerSafetyResult) (returned : Except PyExc Returned) :
    unstamped (executionRecord result returned) =
      updateAuditForExecution (unstamped result.audit) (reportsSuccess returned)
        (if reportsSuccess returned then .null else failureText returned) := by
  unfold executionRecord
  rw [stepExecution_outcome]
  rfl

theorem gate_congr (similar : Similar rt w w' input input') {result result' : InnerSafetyResult}
    (judged : (innerSafetyCheck rt w.readCourseState w.stamp input).out = .ok result)
    (judged' : (innerSafetyCheck rt w'.readCourseState w'.stamp input').out = .ok result') :
    unstamped result.audit = unstamped result'.audit := by
  obtain ⟨v, last, audit⟩ := innerSafetyCheck_judged judged
  obtain ⟨v', last', audit'⟩ := innerSafetyCheck_judged judged'
  have same : result.layerResults.map verdictOf = result'.layerResults.map verdictOf := by
    have verdicts := similar.verdicts
    unfold AuditPrivacy.verdicts at verdicts
    rw [judged, judged'] at verdicts
    exact Option.some.inj verdicts
  obtain rfl : v = v' := Option.some.inj (last.symm.trans (same ▸ last'))
  rw [audit, audit']
  exact judgedRecord_congr similar _ _ v

theorem updateAudit_inj {record : AuditRecord} {succeeded succeeded' : Bool} {error error' : Json} :
    updateAuditForExecution record succeeded error =
      updateAuditForExecution record succeeded' error' ↔
        succeeded = succeeded' ∧ error = error' := by
  constructor
  · intro same
    exact ⟨Option.some.inj (congrArg AuditRecord.executionSucceeded same),
      congrArg AuditRecord.executionError same⟩
  · rintro ⟨rfl, rfl⟩
    rfl

theorem discreet_iff (allowed : AllAllowed rt w.readCourseState input) {tool : ActionTool}
    (name : input.toolName = toolName tool) : Discreet path rt w w' input input' ↔
      Alike path (outcome w tool input.toolArgs) (outcome w' tool input'.toolArgs) := by
  constructor
  · exact fun discreet => discreet allowed tool name
  · intro alike _ tool' name'
    obtain rfl : tool = tool' := toolName_inj (name.symm.trans name')
    exact alike

theorem executed_same {record : AuditRecord} (returned returned' : Except PyExc Returned) :
    updateAuditForExecution record (reportsSuccess returned)
        (if reportsSuccess returned then .null else failureText returned) =
      updateAuditForExecution record (reportsSuccess returned')
        (if reportsSuccess returned' then .null else failureText returned') ↔
      reportsSuccess returned = reportsSuccess returned' ∧
        (reportsSuccess returned = true ∨ failureText returned = failureText returned') := by
  rw [updateAudit_inj]
  cases reportsSuccess returned <;> cases reportsSuccess returned' <;> simp

theorem attempt_same_judged (similar : Similar rt w w' input input')
    {result result' : InnerSafetyResult}
    (gate : (innerSafetyCheck rt w.readCourseState w.stamp input).out = .ok result)
    (gate' : (innerSafetyCheck rt w'.readCourseState w'.stamp input').out = .ok result') :
    SameRecords (attempt path rt w input).log (attempt path rt w' input').log ↔
      Discreet path rt w w' input input' := by
  have run := attempt_recorded rt w input path
  have run' := attempt_recorded rt w' input' path
  rw [gate] at run
  rw [gate'] at run'
  have audits : unstamped result.audit = unstamped result'.audit := gate_congr similar gate gate'
  have decisions : (unstamped result.audit).decision = (unstamped result'.audit).decision :=
    congrArg AuditRecord.decision audits
  change result.audit.decision = result'.audit.decision at decisions
  unfold SameRecords
  generalize records (attempt path rt w input).log = handed at run
  generalize records (attempt path rt w' input').log = handed' at run'
  have one {tool tool' : ActionTool} (name : input.toolName = toolName tool)
      (name' : input'.toolName = toolName tool') : tool' = tool := by
    apply toolName_inj
    rw [← name, ← name', similar.tool]
  cases run with
  | denied refused deny =>
      cases run' with
      | denied =>
          exact iff_of_true (congrArg (fun r => [r]) audits) fun allowed => (refused allowed).elim
      | executed _ _ allow =>
          rw [deny, allow] at decisions
          cases decisions
      | lost _ _ allow =>
          rw [deny, allow] at decisions
          cases decisions
  | executed tool allowed allow name handled =>
      rw [discreet_iff path allowed name]
      cases run' with
      | denied _ deny =>
          rw [deny, allow] at decisions
          cases decisions
      | executed tool' _ _ name' handled' =>
          obtain rfl := one name name'
          rw [List.map_singleton, List.map_singleton, List.singleton_inj, unstamped_executed,
            unstamped_executed, audits, executed_same]
          constructor
          · intro same
            exact ⟨fun standalone => iff_of_false (handled standalone) (handled' standalone),
              same.1, same.2⟩
          · exact fun alike => ⟨alike.success, alike.text⟩
      | lost tool' _ _ name' standalone message =>
          obtain rfl := one name name'
          exact iff_of_false nofun fun alike =>
            handled standalone ((alike.message standalone).mpr message)
  | lost tool allowed allow name standalone message =>
      rw [discreet_iff path allowed name]
      cases run' with
      | denied _ deny =>
          rw [deny, allow] at decisions
          cases decisions
      | executed tool' _ _ name' handled' =>
          obtain rfl := one name name'
          exact iff_of_false nofun fun alike =>
            handled' standalone ((alike.message standalone).mp message)
      | lost tool' _ _ name' _ message' =>
          obtain rfl := one name name'
          rw [message, message']
          exact iff_of_true rfl ⟨fun _ => Iff.rfl, rfl, .inr rfl⟩

theorem attempt_same (similar : Similar rt w w' input input') :
    SameRecords (attempt path rt w input).log (attempt path rt w' input').log ↔
      Discreet path rt w w' input input' := by
  have run := attempt_recorded rt w input path
  have run' := attempt_recorded rt w' input' path
  have verdicts := similar.verdicts
  unfold AuditPrivacy.verdicts at verdicts
  cases gate : (innerSafetyCheck rt w.readCourseState w.stamp input).out with
  | error e =>
      rw [gate] at run verdicts
      cases gate' : (innerSafetyCheck rt w'.readCourseState w'.stamp input').out with
      | ok result' =>
          rw [gate'] at verdicts
          cases verdicts
      | error e' =>
          rw [gate'] at run'
          unfold SameRecords
          generalize records (attempt path rt w input).log = handed at run
          generalize records (attempt path rt w' input').log = handed' at run'
          cases run with
          | raised refused =>
          cases run' with
          | raised => exact iff_of_true rfl fun allowed => (refused allowed).elim
  | ok result =>
      rw [gate] at verdicts
      cases gate' : (innerSafetyCheck rt w'.readCourseState w'.stamp input').out with
      | error e' =>
          rw [gate'] at verdicts
          cases verdicts
      | ok result' => exact attempt_same_judged path similar gate gate'

/-- With arguments that LangChain does not take for a call, what the function does is handed back. -/
theorem discreet_of_plain (similar : Similar rt w w' input input')
    (plain : ¬ IsToolCall input.toolArgs) (plain' : ¬ IsToolCall input'.toolArgs) :
    Discreet path rt w w' input input' ↔
      (AllAllowed rt w.readCourseState input → ∀ tool, input.toolName = toolName tool →
        ranWell w tool input.toolArgs = true ∨
          failureText (outcome w tool input.toolArgs) =
            failureText (outcome w' tool input'.toolArgs)) := by
  constructor
  · intro discreet allowed tool name
    rw [← (plain_handed w tool plain).2]
    exact (discreet allowed tool name).text
  · intro same allowed tool name
    obtain ⟨handled, told⟩ := plain_handed w tool plain
    obtain ⟨handled', told'⟩ := plain_handed w' tool plain'
    have success := similar.outcome allowed tool name
    rw [← told, ← told'] at success
    exact ⟨fun _ => iff_of_false handled handled', success, told ▸ same allowed tool name⟩

end

/-- Two attempts that agree up to values leave the same record in exactly these cases, on either
path: the gate denies or raises, or the tools hand back alike, a success or the same text. -/
theorem records_discreet_iff (rt : Runtime) (w w' : World) (name : String) (args args' : Dict)
    (reply : ToolReply name args) (reply' : ToolReply name args') (step : ActionStep name args)
    (step' : ActionStep name args') (userId sessionId userRole text text' : String) :
    let session := sessionOf userId sessionId userRole
    let input := inputOf session name args
    let input' := inputOf session name args'
    Similar rt w w' input input' →
      (SameRecords (runActionAgent rt w reply.reply (view userId sessionId userRole text)).log
          (runActionAgent rt w' reply'.reply (view userId sessionId userRole text')).log ↔
        Discreet .standalone rt w w' input input') ∧
      (SameRecords (runActionStep rt w step.toPlanStep (some session)).log
          (runActionStep rt w' step'.toPlanStep (some session)).log ↔
        Discreet .planned rt w w' input input') := by
  intro session input input' similar
  constructor
  · obtain ⟨report, standalone, -⟩ := runActionAgent_eq rt w userId sessionId userRole text reply
    obtain ⟨report', standalone', -⟩ :=
      runActionAgent_eq rt w' userId sessionId userRole text' reply'
    rw [standalone, standalone', Eff.map_log, Eff.map_log]
    exact attempt_same .standalone similar
  · cases known : actionTools.lookup name with
    | some tool =>
        rw [runActionStep_eq rt w step.toPlanStep _ (step.tool ▸ known),
          runActionStep_eq rt w' step'.toPlanStep _ (step'.tool ▸ known), Eff.map_log, Eff.map_log,
          stepInput_eq step, stepInput_eq step']
        exact attempt_same .planned similar
    | none =>
        rw [runActionStep_unregistered rt w step known, runActionStep_unregistered rt w' step' known]
        refine iff_of_true rfl fun _ tool same => ?_
        change name = toolName tool at same
        rw [same] at known
        cases tool <;> cases known

/-! An instructor's model passes a number as the title of an assignment: the gate allows it, and the
text of LangChain's `ValidationError` quotes the value. -/

def ownedCourse : CourseState where
  instructorUserId := "I001"
  currentEnrollment := 0
  capacity := 1
  gradeWindowOpen := true
  enrolledStudents := []

def creatingWorld : World where
  readCourseState _ := .ok ownedCourse
  langChain := textTools
  functions _ := .ok [("success", .bool true)]
  stamp := ⟨"0123456789ab", "2025-09-01T00:00:00+00:00"⟩

def titleArgs (title : Json) : Dict :=
  [("course_id", .str "CS101"), ("title", title), ("due_date", .str "2025-12-01")]

def titleReply (title : Json) : ToolReply "assignment_create" (titleArgs title) where
  raw := "\x7b\"tool\": \"assignment_create\", \"arguments\": \x7b\"course_id\": \"CS101\", " ++
    "\"title\": " ++ title.dumps ++ ", \"due_date\": \"2025-12-01\"\x7d\x7d"
  decision := [("tool", .str "assignment_create"), ("arguments", .obj (titleArgs title))]
  direct := rfl
  tool := rfl
  arguments := rfl

def instructor : SessionContext := sessionOf "I001" "session-1" "instructor"

def titleInput (title : Json) : InnerSafetyInput :=
  inputOf instructor "assignment_create" (titleArgs title)

theorem titles_similar {title title' : Json}
    (judged : verdicts .ascii creatingWorld (titleInput title) =
      verdicts .ascii creatingWorld (titleInput title'))
    (same : ranWell creatingWorld .assignmentCreate (titleArgs title) =
      ranWell creatingWorld .assignmentCreate (titleArgs title')) :
    Similar .ascii creatingWorld creatingWorld (titleInput title) (titleInput title') where
  session := rfl
  tool := rfl
  keys key := by
    simp only [titleInput, inputOf, titleArgs, Dict.has, Dict.get?, List.lookup_cons,
      List.lookup_nil]
    split <;> [rfl; split] <;> [rfl; split] <;> rfl
  verdicts := judged
  outcome _ tool name := by
    obtain rfl : .assignmentCreate = tool := toolName_inj name
    exact same

def recordsOf (title : Json) : List Event :=
  (runActionAgent .ascii creatingWorld (titleReply title).reply
    (view "I001" "session-1" "instructor" "Create the assignment")).log

theorem quoted_title_logged :
    Similar .ascii creatingWorld creatingWorld (titleInput (.int 1815)) (titleInput (.int 1906)) ∧
    ¬ SameRecords (recordsOf (.int 1815)) (recordsOf (.int 1906)) := by
  refine ⟨titles_similar (by decide +kernel) rfl, fun same => ?_⟩
  have errors := congrArg (List.map AuditRecord.executionError) same
  have texts : [Json.str _] = [Json.str _] := errors
  have differ := Json.str.inj (List.singleton_inj.mp texts)
  revert differ
  decide +kernel

def titleStep (title : Json) : ActionStep "assignment_create" (titleArgs title) where
  stepId := 0
  description := "Create the assignment"
  agentType := .action
  actionTool := some "assignment_create"
  actionArgs := some (titleArgs title)
  valid := rfl
  action := rfl
  tool := rfl
  arguments := rfl

theorem created_titles_unlogged :
    SameRecords (recordsOf (.str "Homework 1")) (recordsOf (.str "Homework 2")) :=
  (records_discreet_iff .ascii creatingWorld creatingWorld "assignment_create"
    (titleArgs (.str "Homework 1")) (titleArgs (.str "Homework 2")) (titleReply (.str "Homework 1"))
    (titleReply (.str "Homework 2")) (titleStep (.str "Homework 1")) (titleStep (.str "Homework 2"))
    "I001" "session-1" "instructor" "Create the assignment" "Create the assignment"
    (titles_similar (by decide +kernel) rfl)).1.mpr fun _ tool name => by
      obtain rfl : .assignmentCreate = tool := toolName_inj name
      exact ⟨fun _ => iff_of_false nofun nofun, rfl, .inl rfl⟩

end RealityAI.Proof.AuditPrivacy
