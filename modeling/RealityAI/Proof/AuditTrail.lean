import RealityAI.Proof.ActionPaths

namespace RealityAI.Proof.AuditTrail
open Library Library.Superstep Python Model.Safety Model.Schemas Model.State Model.PlanningAgent
open Model.ActionAgent InnerSafety ActionAgent Invocation ActionPaths

/-- A known role modifies an enrollment with all arguments, but the action is a list or a dict. -/
structure UnhashableAction (input : InnerSafetyInput) : Prop where
  tool : input.toolName = "enrollment_modify"
  role : input.session.userRole ∈ roles.map Prod.fst
  present : ∀ key ∈ ["student_id", "course_id", "action"], Dict.has input.toolArgs key = true
  action : (Dict.get input.toolArgs "action").hashable = false

section
variable {rt : Runtime} {input : InnerSafetyInput}

theorem inSet_error {v : Json} {members : List String} {e : PyExc}
    (raised : v.inSet members = .error e) : v.hashable = false := by
  unfold Json.inSet at raised
  split at raised
  · cases raised
  · rename_i other
    exact Bool.not_eq_true _ ▸ other

theorem validateEnrollmentFormat_raises {e : PyExc}
    (raised : validateEnrollmentFormat rt input.toolArgs = .error e) :
    (Dict.get input.toolArgs "action").hashable = false := by
  unfold validateEnrollmentFormat at raised
  dsimp only at raised
  split at raised
  · cases raised
  · rename_i action here
    have value : Dict.get input.toolArgs "action" = action := by
      rw [Dict.get, here]
      rfl
    rw [value]
    cases found : action.inSet enrollmentActions with
    | error e' => exact inSet_error found
    | ok inside =>
        rw [found] at raised
        cases inside <;> cases raised

theorem checkParameterFormat_raises {e : PyExc}
    (raised : checkParameterFormat rt input = .error e) :
    input.toolName = "enrollment_modify" ∧ (Dict.get input.toolArgs "action").hashable = false := by
  unfold checkParameterFormat at raised
  split at raised
  · cases raised
  · rename_i validator known
    have failed : validator input.toolArgs = .error e := by
      cases returned : validator input.toolArgs with
      | error e' =>
          rw [returned] at raised
          cases raised
          rfl
      | ok errors =>
          rw [returned] at raised
          change (if errors ≠ [] then _ else _) = _ at raised
          split at raised <;> cases raised
    unfold formatValidators at known
    simp only [List.lookup_cons, List.lookup_nil] at known
    split at known
    · cases known
      cases failed
    split at known
    · rename_i same
      cases known
      exact ⟨beq_iff_eq.mp same, validateEnrollmentFormat_raises failed⟩
    split at known
    · cases known
      cases failed
    · cases known

theorem role_listed {role : String} {config : RoleConfig} (known : roles.lookup role = some config) :
    role ∈ roles.map Prod.fst := by
  obtain ⟨l₁, l₂, split, -⟩ := List.lookup_eq_some_iff.mp known
  rw [split]
  exact List.mem_map_of_mem (List.mem_append_right l₁ List.mem_cons_self)

theorem enrollment_granted (tool : input.toolName = "enrollment_modify")
    (role : input.session.userRole ∈ roles.map Prod.fst) :
    (checkToolAuthorization input).decision = .allow := by
  unfold checkToolAuthorization
  simp only [roles, List.map_cons, List.map_nil, List.mem_cons, List.not_mem_nil, or_false] at role
  rw [tool]
  rcases role with student | instructor | registrar
  · rw [student]
    rfl
  · rw [instructor]
    rfl
  · rw [registrar]
    rfl

theorem formatRaises_iff : (∃ e, FormatRaises rt input e) ↔ UnhashableAction input := by
  constructor
  · intro ⟨e, raises⟩
    obtain ⟨tool, action⟩ := checkParameterFormat_raises raises.raised
    obtain ⟨config, known, -⟩ := authorization_granted raises.authorization
    obtain ⟨required, known', present⟩ := presence_required raises.presence
    rw [tool] at known'
    obtain rfl : _ = required := Option.some.inj known'
    exact ⟨tool, role_listed known, present, action⟩
  · intro bad
    obtain ⟨tool, role, present, action⟩ := bad
    have complete : (checkParameterPresence rt input).decision = .allow := by
      have missing : missingArgs ["student_id", "course_id", "action"] input.toolArgs = [] := by
        apply List.filter_eq_nil_iff.mpr
        intro key mem
        rw [present key mem]
        decide
      unfold checkParameterPresence
      rw [tool]
      show (if missingArgs ["student_id", "course_id", "action"] input.toolArgs ≠ [] then _
        else _ : LayerResult).decision = _
      rw [missing]
      rfl
    have here : ∃ action, Dict.get? input.toolArgs "action" = some action :=
      Option.isSome_iff_exists.mp (present "action" (by decide))
    obtain ⟨v, here⟩ := here
    have value : Dict.get input.toolArgs "action" = v := by
      rw [Dict.get, here]
      rfl
    refine ⟨v.unhashable, enrollment_granted tool role, complete, ?_⟩
    have unhashable : v.inSet enrollmentActions = .error v.unhashable := by
      rw [Json.inSet, ← value, action]
      rfl
    unfold checkParameterFormat
    rw [tool]
    show validateEnrollmentFormat rt input.toolArgs >>= _ = _
    unfold validateEnrollmentFormat
    simp only [here, unhashable]
    rfl

end

/-- LangChain calls the function, which returns a dict that reports success. -/
def ranWell (w : World) (tool : ActionTool) (args : Dict) : Bool :=
  match w.langChain.makeCall tool args >>= w.functions with
  | .ok raw => succeeded raw
  | .error _ => false

structure Truthful (rt : Runtime) (w : World) (input : InnerSafetyInput) (record : AuditRecord) :
    Prop where
  about : record.toolName = input.toolName ∧ record.userId = input.session.userId ∧
    record.userRole = input.session.userRole
  outcome :
    (∃ blocking, FirstDenial rt w.readCourseState input blocking ∧ record.decision = .deny ∧
      record.shortCircuitedAt = some blocking.layer ∧ record.executionAttempted = false) ∨
    (∃ tool, AllAllowed rt w.readCourseState input ∧ input.toolName = toolName tool ∧
      record.decision = .allow ∧ record.shortCircuitedAt = none ∧
      record.executionAttempted = true ∧
      record.executionSucceeded = some (ranWell w tool input.toolArgs))

def AuditedOnce (rt : Runtime) (w : World) (input : InnerSafetyInput) (sink : AuditSink)
    (log : List Event) : Prop :=
  ∃ record, Truthful rt w input record ∧
    (log.foldl AuditSink.receive sink).records = sink.records ++ [record]

def reportsSuccess : Except PyExc Returned → Bool
  | .ok (.dict raw) => succeeded raw
  | _ => false

/-- The gate allows a call, and what LangChain hands back of it does not tell the agent of this path
what the function did. -/
def Misread (path : Path) (rt : Runtime) (w : World) (input : InnerSafetyInput) : Prop :=
  AllAllowed rt w.readCourseState input ∧ ∃ tool, input.toolName = toolName tool ∧
    ((path = .standalone ∧ outcome w tool input.toolArgs = .ok .toolMessage) ∨
      reportsSuccess (outcome w tool input.toolArgs) ≠ ranWell w tool input.toolArgs)

section
variable {rt : Runtime} {w : World} {input : InnerSafetyInput} {sink : AuditSink} {path : Path}

variable (w) in
theorem plain_handed (tool : ActionTool) {args : Dict}
    (plain : ¬ IsToolCall args) : outcome w tool args ≠ .ok .toolMessage ∧
      reportsSuccess (outcome w tool args) = ranWell w tool args := by
  rw [outcome_plain plain, ranWell]
  cases w.langChain.makeCall tool args >>= w.functions with
  | error e => exact ⟨nofun, rfl⟩
  | ok raw => exact ⟨nofun, rfl⟩

theorem misread_toolCall (misread : Misread path rt w input) :
    IsToolCall input.toolArgs := by
  by_contra plain
  obtain ⟨-, tool, -, misread⟩ := misread
  obtain ⟨handled, told⟩ := plain_handed w tool plain
  rcases misread with ⟨-, message⟩ | differ
  · exact handled message
  · exact differ told

theorem not_audited {log : List Event}
    (quiet : (log.foldl AuditSink.receive sink).records = sink.records) :
    ¬ AuditedOnce rt w input sink log := by
  intro ⟨record, _, same⟩
  have length := congrArg List.length (quiet.symm.trans same)
  rw [List.length_append] at length
  exact absurd length (by simp)

theorem receive_calls (sink : AuditSink) (tool : ActionTool) (args : Dict) :
    (calls w tool args).foldl AuditSink.receive sink = sink := by
  rw [calls_eq]
  cases w.langChain.makeCall tool args <;> rfl

theorem persist_fresh {record : AuditRecord} (fresh : record.auditId ∉ sink.ids) :
    (persistAuditRecord sink record).records = sink.records ++ [record] := by
  rw [persistAuditRecord, if_neg fresh]

theorem executed_recorded (fresh : w.stamp.auditId ∉ sink.ids) (tool : ActionTool)
    (results : List LayerResult) :
    ((executedAttempt w w.stamp input tool results).log.foldl AuditSink.receive sink).records =
      sink.records ++ [executionRecord (innerAllAllowed w.stamp input results)
        (outcome w tool input.toolArgs)] := by
  unfold executedAttempt
  rw [List.foldl_append, receive_calls]
  exact persist_fresh fresh

theorem executed_audited (fresh : w.stamp.auditId ∉ sink.ids) {tool : ActionTool}
    (results : List LayerResult) (allowed : AllAllowed rt w.readCourseState input)
    (name : input.toolName = toolName tool) :
    AuditedOnce rt w input sink (executedAttempt w w.stamp input tool results).log ↔
      reportsSuccess (outcome w tool input.toolArgs) = ranWell w tool input.toolArgs := by
  have recorded : (executionRecord (innerAllAllowed w.stamp input results)
      (outcome w tool input.toolArgs)).executionSucceeded =
        some (reportsSuccess (outcome w tool input.toolArgs)) := by
    show some (stepExecution "" (outcome w tool input.toolArgs)).2.1 = _
    rcases outcome w tool input.toolArgs with e | handed
    · rfl
    · cases handed <;> rfl
  constructor
  · intro ⟨record, truthful, same⟩
    rw [executed_recorded fresh] at same
    obtain rfl := List.singleton_inj.mp (List.append_cancel_left same)
    rcases truthful.outcome with ⟨blocking, first, -⟩ | ⟨tool', -, name', -, -, -, succeeded⟩
    · exact absurd allowed first.not_allowed
    · obtain rfl := toolName_inj (name.symm.trans name')
      exact Option.some.inj (recorded.symm.trans succeeded)
  · intro told
    exact ⟨_, ⟨⟨rfl, rfl, rfl⟩, .inr ⟨tool, allowed, name, rfl, rfl, rfl, told ▸ recorded⟩⟩,
      executed_recorded fresh tool results⟩

theorem misread_iff (allowed : AllAllowed rt w.readCourseState input) {tool : ActionTool}
    (name : input.toolName = toolName tool) : Misread path rt w input ↔
      (path = .standalone ∧ outcome w tool input.toolArgs = .ok .toolMessage) ∨
        reportsSuccess (outcome w tool input.toolArgs) ≠ ranWell w tool input.toolArgs := by
  constructor
  · intro ⟨_, tool', name', misread⟩
    obtain rfl := toolName_inj (name.symm.trans name')
    exact misread
  · exact fun misread => ⟨allowed, tool, name, misread⟩

variable (path) in
theorem attempt_audited (fresh : w.stamp.auditId ∉ sink.ids) :
    AuditedOnce rt w input sink (attempt path rt w input).log ↔
      ¬ UnhashableAction input ∧ ¬ Misread path rt w input := by
  rw [← (formatRaises_iff : (∃ e, FormatRaises rt input e) ↔ _)]
  have run := attemptRun path rt w input
  generalize attempt path rt w input = x at run
  cases run with
  | raised raises => exact iff_of_false (not_audited rfl) fun clear => clear.1 ⟨_, raises⟩
  | denied results first =>
      refine iff_of_true ⟨(denial w.stamp input _ results).audit,
        ⟨⟨rfl, rfl, rfl⟩, .inl ⟨_, first, rfl, rfl, rfl⟩⟩, persist_fresh fresh⟩ ⟨?_, ?_⟩
      · intro ⟨e, raises⟩
        exact first.not_raises raises
      · exact fun misread => first.not_allowed misread.1
  | executed tool results allowed name handled =>
      have hashable : ¬ ∃ e, FormatRaises rt input e := by
        intro ⟨e, raises⟩
        exact allowed.not_raises raises
      rw [and_iff_right hashable, misread_iff allowed name,
        or_iff_right fun message => handled message.1 message.2, not_not]
      exact executed_audited fresh results allowed name
  | lost tool standalone allowed name message =>
      refine iff_of_false (not_audited (by rw [receive_calls])) fun clear => ?_
      exact clear.2 ((misread_iff allowed name).mpr (.inl ⟨standalone, message⟩))

end

/-- An attempt of a registered function is audited once, unless the format check raises or what the
tool hands back is misread; the plan path does not audit the attempt of any other function. -/
theorem audited_once_iff (rt : Runtime) (w : World) (sink : AuditSink)
    (fresh : w.stamp.auditId ∉ sink.ids) (name : String) (args : Dict) (reply : ToolReply name args)
    (step : ActionStep name args) (userId sessionId userRole text : String) :
    let input := inputOf (sessionOf userId sessionId userRole) name args
    (AuditedOnce rt w input sink
        (runActionAgent rt w reply.reply (view userId sessionId userRole text)).log ↔
      ¬ UnhashableAction input ∧ ¬ Misread .standalone rt w input) ∧
    (AuditedOnce rt w input sink
        (runActionStep rt w step.toPlanStep (some (sessionOf userId sessionId userRole))).log ↔
      name ∈ actionTools.map Prod.fst ∧ ¬ UnhashableAction input ∧ ¬ Misread .planned rt w input) := by
  intro input
  constructor
  · obtain ⟨report, standalone, -⟩ := runActionAgent_eq rt w userId sessionId userRole text reply
    rw [standalone, Eff.map_log]
    exact attempt_audited .standalone fresh
  · cases known : actionTools.lookup name with
    | some tool =>
        have listed : name ∈ actionTools.map Prod.fst := by
          obtain ⟨l₁, l₂, split, -⟩ := List.lookup_eq_some_iff.mp known
          rw [split]
          exact List.mem_map_of_mem (List.mem_append_right l₁ List.mem_cons_self)
        rw [runActionStep_eq rt w step.toPlanStep _ (step.tool ▸ known), Eff.map_log, stepInput_eq,
          attempt_audited .planned fresh]
        exact (and_iff_right listed).symm
    | none =>
        rw [runActionStep_unregistered rt w step known]
        apply iff_of_false (not_audited rfl)
        intro ⟨listed, _⟩
        obtain ⟨entry, mem, rfl⟩ := List.mem_map.mp listed
        simpa using List.lookup_eq_none_iff.mp known entry mem

/-! A step with a function that is not registered, an action that is a list, and arguments that hold
those of a call. -/

def unknownStep : ActionStep "enrollment_drop_all" [] where
  stepId := 0
  description := "Drop all enrollments"
  agentType := .action
  actionTool := some "enrollment_drop_all"
  actionArgs := some []
  valid := rfl
  action := rfl
  tool := rfl
  arguments := rfl

def listArgs : Dict :=
  [("student_id", .str "S001"), ("course_id", .str "CS101"), ("action", .arr [.str "add"])]

def listReply : ToolReply "enrollment_modify" listArgs where
  raw := "\x7b\"tool\": \"enrollment_modify\", \"arguments\": \x7b\"student_id\": " ++
    "\"S001\", \"course_id\": \"CS101\", \"action\": [\"add\"]\x7d\x7d"
  decision := [("tool", .str "enrollment_modify"), ("arguments", .obj listArgs)]
  direct := rfl
  tool := rfl
  arguments := rfl

def envelopeReply : ToolReply "enrollment_modify" WriteGate.envelopeArgs where
  raw := WriteGate.envelopeText
  decision := [("tool", .str "enrollment_modify"), ("arguments", .obj WriteGate.envelopeArgs)]
  direct := rfl
  tool := rfl
  arguments := rfl

/-- The plan path raises before the gate for the first, the gate raises for the second, and
`_finalize_audit` for the third, after the call. -/
theorem attempts_without_record :
    ¬ AuditedOnce .ascii WriteGate.openWorld
      (inputOf (sessionOf "S001" "session-1" "student") "enrollment_drop_all" []) ⟨[], []⟩
      (runActionStep .ascii WriteGate.openWorld unknownStep.toPlanStep
        (some (sessionOf "S001" "session-1" "student"))).log ∧
    ¬ AuditedOnce .ascii WriteGate.openWorld
      (inputOf (sessionOf "S001" "session-1" "student") "enrollment_modify" listArgs) ⟨[], []⟩
      (runActionAgent .ascii WriteGate.openWorld listReply.reply
        (view "S001" "session-1" "student" "Enroll me in CS101")).log ∧
    ¬ AuditedOnce .ascii WriteGate.openWorld
      (inputOf (sessionOf "S001" "session-1" "student") "enrollment_modify"
        WriteGate.envelopeArgs) ⟨[], []⟩
      (runActionAgent .ascii WriteGate.openWorld envelopeReply.reply
        (view "S001" "session-1" "student" "Enroll me in CS101")).log :=
  ⟨not_audited rfl, not_audited rfl, not_audited rfl⟩

theorem open_add_audited :
    let input := inputOf (sessionOf "S001" "session-1" "student") "enrollment_modify"
      WriteGate.addArgs
    (AuditedOnce .ascii WriteGate.openWorld input ⟨[], []⟩
        (runActionAgent .ascii WriteGate.openWorld addToolReply.reply
          (view "S001" "session-1" "student" "Enroll me in CS101")).log ↔
      ¬ UnhashableAction input ∧ ¬ Misread .standalone .ascii WriteGate.openWorld input) ∧
    (AuditedOnce .ascii WriteGate.openWorld input ⟨[], []⟩
        (runActionStep .ascii WriteGate.openWorld addStep.toPlanStep
          (some (sessionOf "S001" "session-1" "student"))).log ↔
      "enrollment_modify" ∈ actionTools.map Prod.fst ∧ ¬ UnhashableAction input ∧
        ¬ Misread .planned .ascii WriteGate.openWorld input) :=
  audited_once_iff .ascii WriteGate.openWorld ⟨[], []⟩ List.not_mem_nil "enrollment_modify"
    WriteGate.addArgs addToolReply addStep "S001" "session-1" "student" "Enroll me in CS101"

end RealityAI.Proof.AuditTrail
