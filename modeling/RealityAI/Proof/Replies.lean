import RealityAI.Proof.AuditTrail
import RealityAI.Proof.Plan.Agent
import RealityAI.Proof.Query

/-!
# Which replies of the model the agents survive
-/

namespace RealityAI.Proof.Replies
open Library Python Model.Safety Model.State Model.Schemas Model.PlanningAgent Model.ActionAgent
open Model.ActionTools Model.QueryAgent Model.PlanSteps Model.PlanAgent InnerSafety ActionAgent
open ActionPaths AuditTrail Plan Query

def typedView (userId sessionId userRole : Option String) (text : String) (history : List Message)
    (normalized : Option String) : AgentView where
  messages := history ++ [⟨.str text⟩]
  userId := userId.map .str
  sessionId := sessionId.map .str
  userRole := userRole.map .str
  userQueryNormalized := normalized.map .str

def typedSession (userId sessionId userRole : Option String) : SessionContext :=
  sessionOf (userId.getD "") (sessionId.getD "") (userRole.getD "")

section
variable (userId sessionId userRole : Option String) (text : String) (history : List Message)
variable (normalized : Option String)

theorem text_getD (key : Option String) : (key.map Json.str).getD (.str "") = .str (key.getD "") := by
  cases key <;> rfl

theorem effectiveRole_typed : effectiveRole (userRole.map .str) = .str (roleOf (userRole.getD "")) := by
  cases userRole with
  | none => rfl
  | some role => exact effectiveRole_str role

theorem queryInput_typed :
    queryInput (typedView userId sessionId userRole text history normalized) = .ok text := by
  simp [queryInput, typedView, strField]

theorem actionInput_typed :
    actionInput (typedView userId sessionId userRole text history normalized) =
      .ok ⟨text, userId.getD "", sessionId.getD "", roleOf (userRole.getD "")⟩ := by
  simp [actionInput, typedView, effectiveRole_typed, strField]

theorem planSession_typed :
    planSession (typedView userId sessionId userRole text history normalized) =
      .ok (typedSession userId sessionId userRole) := by
  unfold planSession typedView
  dsimp only
  rw [text_getD, text_getD, effectiveRole_typed]
  rfl

theorem userQuery_typed :
    Returns (userQuery (typedView userId sessionId userRole text history normalized) >>=
      humanContent) := by
  have asked : ∃ query, userQuery (typedView userId sessionId userRole text history normalized) =
      .ok (.str query) := by
    unfold userQuery typedView
    dsimp only
    cases normalized with
    | none => exact ⟨text, by simp [Json.truthy]⟩
    | some query =>
        by_cases empty : query = ""
        · exact ⟨text, by simp [Json.truthy, empty]⟩
        · exact ⟨query, by simp [Json.truthy, empty]⟩
  obtain ⟨query, asked⟩ := asked
  rw [asked]
  exact returns_ok _

end

/-! ## The query agent -/

def QueryHandles : Loads → Prop
  | .decodeError => True
  | .value (.obj decision) => FalsyOrText (sourceField decision) ∧ FalsyOrText (queryTypeField decision)
  | _ => False

theorem runQueryAgent_returns_iff (b : Builtins) (t : ObjectTexts) (stores : DataStores)
    (random : RandomBytes) {state : AgentView} {text : String} (known : queryInput state = .ok text)
    (content : String) (loads : Loads) :
    Returns (runQueryAgent b t stores random (Loads.reply content loads) state) ↔
      QueryHandles loads := by
  have raises {reply : Except PyExc Reply} {e : PyExc}
      (failed : (reply >>= fun reply => routeQuery reply { userMessage := text }) = .error e) :
      ¬ Returns (runQueryAgent b t stores random reply state) := by
    rw [runQueryAgent_raises b t stores random known failed]
    exact returns_error e
  cases loads with
  | raises e => exact iff_of_false (raises rfl) id
  | decodeError =>
      obtain ⟨result, same⟩ := runQueryAgent_text b t random known
      rw [same]
      exact iff_of_true (returns_ok result) trivial
  | value v =>
      cases v with
      | obj decision =>
          rw [runQueryAgent_object b t stores random known, returns_bind, QueryHandles,
            ← strField_or_returns_iff, ← strField_or_returns_iff]
          constructor
          · intro ⟨source, named, returns⟩
            obtain ⟨queryType, typed, -⟩ := returns_bind.mp returns
            exact ⟨⟨source, named⟩, queryType, typed⟩
          · intro ⟨⟨source, named⟩, queryType, typed⟩
            exact ⟨source, named, returns_bind.mpr ⟨queryType, typed, returns_pure _⟩⟩
      | _ => exact iff_of_false (raises rfl) id

/-! ## The action agent -/

section
variable (rt : Runtime) (w : World)

def finished (s : Model.ActionAgent.InternalState) : Except PyExc ActionAgentOutput :=
  (gatedNodes rt w s >>= fun final => Eff.lift (actionOutput final)).out

theorem replaced_text {s : Model.ActionAgent.InternalState} (silent : s.response.truthy = false)
    {a : Attempt} (handled : ∀ result, a ≠ .executed result (.ok .toolMessage)) :
    Text (finalState rt (attempted s a)) := by
  cases a with
  | denied result =>
      apply finalState_text
      show ∃ t, (Json.str result.finalReasonHuman).or (.str result.finalReasonCode) = .str t
      unfold Json.or
      split
      · exact ⟨_, rfl⟩
      · exact ⟨_, rfl⟩
  | executed result returned =>
      cases returned with
      | error e => exact finalState_text rt ⟨_, rfl⟩
      | ok handed =>
          cases handed with
          | toolMessage => exact absurd rfl (handled result)
          | dict raw =>
              have written : (attempted s (.executed result (.ok (.dict raw)))).response.truthy ≠
                  true := by
                show s.response.truthy ≠ true
                rw [silent]
                exact Bool.false_ne_true
              unfold finalState finalText
              rw [if_neg written]
              exact ⟨_, rfl⟩

theorem finished_returns_iff {s : Model.ActionAgent.InternalState} (quiet : s.executionError = none)
    (unran : s.rawToolResult = none) (silent : s.response.truthy = false) :
    Returns (finished rt w s) ↔ ∃ input, gateInput s = .ok input ∧ ¬ UnhashableAction input ∧
      ¬ Lost rt w input := by
  have gated : nothingToGate s = false := by simp [nothingToGate, silent]
  unfold finished
  cases valid : gateInput s with
  | error e =>
      rw [gatedNodes_invalid rt w gated valid, Eff.raise_bind]
      simp
  | ok input =>
      rw [gatedNodes_eq rt w quiet unran gated valid, Eff.map_bind, returns_lift]
      have reported {a : Attempt} (handled : ∀ result, a ≠ .executed result (.ok .toolMessage)) :
          Returns (actionOutput (finalState rt (attempted s a))) := by
        obtain ⟨output, ok, -⟩ := actionOutput_attempted rt
          (replaced_text rt silent handled) (gateInput_name valid)
        exact ⟨output, ok⟩
      have run := attemptRun .standalone rt w input
      simp only [Except.ok.injEq, exists_eq_left']
      generalize attempt .standalone rt w input = x at run
      cases run with
      | raised raises =>
          exact iff_of_false (by simp) fun clear => clear.1 (formatRaises_iff.mp ⟨_, raises⟩)
      | denied results first =>
          refine iff_of_true ⟨_, rfl, reported nofun⟩ ⟨fun bad => ?_, fun lost => ?_⟩
          · obtain ⟨e, raises⟩ := formatRaises_iff.mpr bad
            exact first.not_raises raises
          · exact first.not_allowed lost.1
      | executed tool results allowed name handled =>
          refine iff_of_true ⟨_, rfl, reported ?_⟩ ⟨fun bad => ?_, fun lost => ?_⟩
          · intro result same
            exact handled rfl (Attempt.executed.inj same).2
          · obtain ⟨e, raises⟩ := formatRaises_iff.mpr bad
            exact allowed.not_raises raises
          · obtain ⟨-, tool', name', message⟩ := lost
            obtain rfl := toolName_inj (name.symm.trans name')
            exact handled rfl message
      | lost tool _ allowed name message =>
          exact iff_of_false (by simp) fun clear => clear.2 ⟨allowed, tool, name, message⟩

theorem roleOf_roleOf (userRole : String) : roleOf (roleOf userRole) = roleOf userRole := by
  by_cases empty : userRole = ""
  · rw [empty]
    rfl
  · simp [roleOf, empty]

theorem gateInput_ok_iff {s : Model.ActionAgent.InternalState} {input : InnerSafetyInput} :
    gateInput s = .ok input ↔ ∃ name args,
      (s.selectedTool.getD (.str "")).or (.str "") = .str name ∧
      (s.toolArguments.getD (.obj [])).or (.obj []) = .obj args ∧
      input = ActionPaths.inputOf (sessionOf s.userId s.sessionId s.userRole) name args := by
  constructor
  · intro valid
    refine ⟨input.toolName, input.toolArgs, gateInput_name valid, gateInput_args valid, ?_⟩
    unfold gateInput at valid
    obtain ⟨name, -, valid⟩ := bind_ok.mp valid
    obtain ⟨args, -, valid⟩ := bind_ok.mp valid
    cases valid
    rfl
  · intro ⟨name, args, tool, arguments, same⟩
    subst same
    unfold gateInput
    dsimp only
    rw [tool, arguments]
    rfl

variable (userId sessionId userRole : Option String) (text : String)

def started : Model.ActionAgent.InternalState :=
  startState (userId.getD "") (sessionId.getD "") (userRole.getD "") text

theorem session_started :
    sessionOf (started userId sessionId userRole text).userId
        (started userId sessionId userRole text).sessionId
        (started userId sessionId userRole text).userRole =
      typedSession userId sessionId userRole := by
  simp [started, startState, typedSession, sessionOf, roleOf_roleOf]

theorem finished_noTool (answer : Json) :
    Returns (finished rt w (noTool (started userId sessionId userRole text) answer)) ↔
      FalsyOrText answer := by
  by_cases truthy : answer.truthy = true
  · have skipped : nothingToGate (noTool (started userId sessionId userRole text) answer) = true := by
      show (answer.truthy && true) = true
      rw [truthy, Bool.and_true]
    have output : Returns (actionOutput (noTool (started userId sessionId userRole text) answer)) ↔
        Returns (strField answer) := by
      rw [actionOutput, returns_bind]
      constructor
      · rintro ⟨response, typed, -⟩
        exact ⟨response, typed⟩
      · rintro ⟨response, typed⟩
        exact ⟨response, typed, returns_ok _⟩
    rw [finished, gatedNodes_skipped rt w rfl skipped, Eff.pure_bind', Eff.lift_out, output,
      strField_returns_iff, FalsyOrText]
    simp [truthy]
  · have silent : (noTool (started userId sessionId userRole text) answer).response.truthy = false :=
      Bool.not_eq_true answer.truthy ▸ truthy
    rw [finished_returns_iff rt w rfl rfl silent]
    refine iff_of_true ⟨_, gateInput_ok_iff.mpr ⟨"", [], rfl, rfl, rfl⟩, ?_, ?_⟩ ?_
    · intro bad
      exact absurd (show "" = "enrollment_modify" from bad.tool) (by decide)
    · rintro ⟨-, tool, name, -⟩
      exact absurd (show "" = toolName tool from name) (by cases tool <;> decide)
    · intro written
      exact absurd written truthy

theorem finished_tool (tool arguments confirmation : Json) :
    Returns (finished rt w { started userId sessionId userRole text with
        selectedTool := some tool
        toolArguments := some arguments
        confirmationText := some confirmation }) ↔
      ∃ name args, tool.or (.str "") = .str name ∧ arguments.or (.obj []) = .obj args ∧
        ¬ UnhashableAction (ActionPaths.inputOf (typedSession userId sessionId userRole) name args) ∧
        ¬ Lost rt w (ActionPaths.inputOf (typedSession userId sessionId userRole) name args) := by
  rw [finished_returns_iff rt w rfl rfl rfl, ← session_started userId sessionId userRole text]
  simp only [gateInput_ok_iff]
  constructor
  · intro ⟨input, ⟨name, args, named, given, same⟩, clear⟩
    exact ⟨name, args, named, given, same ▸ clear⟩
  · intro ⟨name, args, named, given, clear⟩
    exact ⟨_, ⟨name, args, named, given, rfl⟩, clear⟩

variable (history : List Message) (normalized : Option String)

theorem runActionAgent_returns_iff (reply : Reply) :
    Returns (runActionAgent rt w reply
        (typedView userId sessionId userRole text history normalized)).out ↔
      ∃ s, routeAction reply (started userId sessionId userRole text) = .ok s ∧
        Returns (finished rt w s) := by
  unfold runActionAgent invokeActionSubgraph runSubgraph finished Returns
  simp only [actionInput_typed, Eff.bind_out_ok, Eff.lift_out, Eff.pure_out, Except.ok.injEq,
    exists_eq_left']
  constructor
  · intro ⟨_, output, ⟨final, ⟨s, here, gated⟩, told⟩, _⟩
    exact ⟨s, here, output, final, gated, told⟩
  · intro ⟨s, here, output, final, gated, told⟩
    exact ⟨_, output, ⟨final, ⟨s, here, gated⟩, told⟩, rfl⟩

def questionField (decision : Dict) : Json :=
  (Dict.get? decision "question").getD (.str "Need clarification.")

def toolField (decision : Dict) : Json := (Dict.get? decision "tool").getD (.str "")

def argumentsField (decision : Dict) : Json := (Dict.get? decision "arguments").getD (.obj [])

/-- What a reply may hold: a question, or a tool with arguments that the format check can compare and
that are not handed back as a `ToolMessage`. -/
def ActionHandles (session : SessionContext) : Loads → Prop
  | .decodeError => True
  | .value (.obj decision) =>
      if (Dict.get decision "clarification_needed").truthy then FalsyOrText (questionField decision)
      else ∃ name args, (toolField decision).or (.str "") = .str name ∧
        (argumentsField decision).or (.obj []) = .obj args ∧
        ¬ UnhashableAction (ActionPaths.inputOf session name args) ∧
        ¬ Lost rt w (ActionPaths.inputOf session name args)
  | _ => False

def actionRun (content : String) (loads : Loads) (state : AgentView) : Except PyExc AgentResult := do
  let reply ← Loads.reply content loads
  (runActionAgent rt w reply state).out

theorem actionRun_returns_iff (content : String) (loads : Loads) :
    Returns (actionRun rt w content loads
        (typedView userId sessionId userRole text history normalized)) ↔
      ActionHandles rt w (typedSession userId sessionId userRole) loads := by
  cases loads with
  | raises e => exact iff_of_false (returns_error e) id
  | decodeError =>
      rw [actionRun, Loads.reply, ok_bind, runActionAgent_returns_iff]
      refine iff_of_true ⟨_, rfl, ?_⟩ trivial
      exact (finished_noTool rt w userId sessionId userRole text _).mpr fun _ => ⟨content, rfl⟩
  | value v =>
      rw [actionRun, Loads.reply, ok_bind, runActionAgent_returns_iff]
      cases v with
      | obj decision =>
          rw [ActionHandles]
          by_cases asked : (Dict.get decision "clarification_needed").truthy = true
          · rw [if_pos asked, ← finished_noTool rt w userId sessionId userRole text]
            simp [routeAction, asked, questionField]
          · rw [if_neg asked, ← finished_tool rt w userId sessionId userRole text _ _
              ((Dict.get? decision "confirmation").getD (.str ""))]
            simp [routeAction, asked, toolField, argumentsField]
      | _ => exact iff_of_false (by simp [routeAction]) id

end

/-! ## The planning agent -/

def reasoningField (result : Dict) : Json := (Dict.get? result "reasoning").getD (.str "")

def stepsField (result : Dict) : Json := (Dict.get? result "steps").getD (.arr [])

structure Describes (reader : PlanReader) (items : List Json) (reasoning : Json) (p : Plan) : Prop where
  reasoning : reasoning = .str p.reasoning
  steps : List.Forall₂ (fun item (s : PlanStep) => reader.readStep item = .ok s.toStepFields) items p.steps

section
variable (reader : PlanReader) (order : SetOrder)

theorem validateStep_ok_iff (item : Json) (s : PlanStep) :
    validateStep reader item = .ok s ↔ reader.readStep item = .ok s.toStepFields := by
  unfold validateStep
  cases read : reader.readStep item with
  | error text => simp
  | ok fields =>
      constructor
      · intro ok
        dsimp only at ok
        split at ok
        · cases ok
          rfl
        · cases ok
      · intro same
        obtain rfl := Except.ok.inj same
        dsimp only
        split
        · rfl
        · rename_i message invalid
          rw [s.valid] at invalid
          cases invalid

theorem validateSteps_ok_iff (items : List Json) (steps : List PlanStep) :
    items.mapM (validateStep reader) = .ok steps ↔
      List.Forall₂ (fun item (s : PlanStep) => reader.readStep item = .ok s.toStepFields) items steps := by
  induction items generalizing steps with
  | nil =>
      rw [List.forall₂_nil_left_iff, List.mapM_nil]
      exact ⟨fun same => (Except.ok.inj same).symm, fun same => same ▸ rfl⟩
  | cons item items ih =>
      rw [List.mapM_cons, List.forall₂_cons_left_iff, bind_ok]
      simp only [bind_ok, validateStep_ok_iff, ih]
      constructor
      · intro ⟨s, here, rest, later, made⟩
        exact ⟨s, rest, here, later, (Except.ok.inj made).symm⟩
      · intro ⟨s, rest, here, later, made⟩
        exact ⟨s, here, rest, later, made ▸ rfl⟩

theorem construct_eq (p : Plan) : Plan.construct order p.steps p.reasoning = .ok p := by
  obtain ⟨steps, reasoning, order', accepted⟩ := p
  have valid := (validateDag_ok_iff steps order).mpr ((validateDag_ok_iff steps order').mp accepted)
  unfold Plan.construct
  dsimp only
  split
  · rfl
  · rename_i text invalid
    rw [valid] at invalid
    cases invalid

theorem construct_ok {steps : List PlanStep} {reasoning : String} {p : Plan}
    (made : Plan.construct order steps reasoning = .ok p) :
    p.steps = steps ∧ p.reasoning = reasoning := by
  unfold Plan.construct at made
  split at made
  · cases made
    exact ⟨rfl, rfl⟩
  · cases made

theorem buildPlan_ok_iff (items : List Json) (reasoning : Json) (p : Plan) :
    buildPlan reader order items reasoning = .ok p ↔ Describes reader items reasoning p := by
  unfold buildPlan
  rw [bind_ok]
  constructor
  · intro ⟨steps, read, made⟩
    split at made
    · rename_i reasoning
      cases constructed : Plan.construct order steps reasoning with
      | error text =>
          rw [constructed] at made
          cases made
      | ok p' =>
          rw [constructed] at made
          obtain rfl := Except.ok.inj made
          obtain ⟨sameSteps, sameReasoning⟩ := construct_ok order constructed
          refine ⟨by rw [sameReasoning], ?_⟩
          rw [sameSteps]
          exact (validateSteps_ok_iff reader items steps).mp read
    · cases made
  · intro described
    refine ⟨p.steps, (validateSteps_ok_iff reader items p.steps).mpr described.steps, ?_⟩
    rw [described.reasoning]
    dsimp only
    rw [construct_eq]
    rfl

def MakesPlan : Loads → Prop
  | .decodeError => True
  | .value (.obj result) => (stepsField result).truthy = true → Returns (iterate (stepsField result))
  | _ => False

def madePlan (content : String) (loads : Loads) : Except PyExc MadePlan :=
  Loads.reply content loads >>= makePlan reader order

def offered (content : String) (reasoning : Json) (items : List Json) : MadePlan :=
  match buildPlan reader order items reasoning with
  | .ok p => ⟨some p, reasoning, content⟩
  | .error text => ⟨none, .str ("Plan validation failed: " ++ text), content⟩

theorem madePlan_object (content : String) (result : Dict) :
    madePlan reader order content (.value (.obj result)) =
      if !(stepsField result).truthy then .ok ⟨none, reasoningField result, content⟩
      else iterate (stepsField result) >>= fun items =>
        match buildPlan reader order items (reasoningField result) with
        | .ok p => pure ⟨some p, reasoningField result, content⟩
        | .error text => pure ⟨none, .str ("Plan validation failed: " ++ text), content⟩ := rfl

theorem madePlan_listed (content : String) {result : Dict}
    (listed : (stepsField result).truthy = true) :
    madePlan reader order content (.value (.obj result)) =
      (iterate (stepsField result) >>= fun items =>
        .ok (offered reader order content (reasoningField result) items)) := by
  rw [madePlan_object, listed]
  refine congrArg (iterate (stepsField result) >>= ·) ?_
  funext items
  unfold offered
  cases buildPlan reader order items (reasoningField result) <;> rfl

theorem madePlan_unlisted (content : String) {result : Dict}
    (unlisted : (stepsField result).truthy = false) :
    madePlan reader order content (.value (.obj result)) =
      .ok ⟨none, reasoningField result, content⟩ := by
  rw [madePlan_object, unlisted]
  rfl

theorem madePlan_returns_iff (content : String) (loads : Loads) :
    Returns (madePlan reader order content loads) ↔ MakesPlan loads := by
  cases loads with
  | raises e => exact iff_of_false (returns_error e) id
  | decodeError => exact iff_of_true (returns_ok _) trivial
  | value v =>
      cases v with
      | obj result =>
          rw [MakesPlan]
          cases listed : (stepsField result).truthy with
          | true =>
              rw [madePlan_listed reader order content listed, returns_bind]
              simp [Returns]
          | false =>
              rw [madePlan_unlisted reader order content listed]
              simp
      | _ => exact iff_of_false (returns_error _) id

theorem reportFailure_returns_iff (made : MadePlan) :
    Returns (reportFailure made) ↔ ∃ s, made.reasoning = .str s := by
  unfold reportFailure
  split
  · rename_i s same
    refine iff_of_true ?_ ⟨s, same⟩
    split
    · exact returns_ok _
    · exact returns_ok _
  · rename_i other
    exact iff_of_false (returns_error _) fun ⟨s, same⟩ => other s same

def Delivers (limits : GraphLimits) (made : MadePlan) : Prop :=
  match made.plan with
  | none => ∃ s, made.reasoning = .str s
  | some p => Fits limits p

theorem runPlanningAgent_returns_iff (limits : GraphLimits) (h : LawfulHandlers Event)
    (mergeOrder : Superstep.MergeOrder Update) {state : AgentView} {session : SessionContext}
    (asked : Returns (userQuery state >>= humanContent)) (known : planSession state = .ok session) (content : String)
    (loads : Loads) :
    Returns (runPlanningAgent limits h.toHandlers mergeOrder reader order (Loads.reply content loads)
        state).out ↔
      ∃ made, madePlan reader order content loads = .ok made ∧ Delivers limits made := by
  obtain ⟨query, asked⟩ := asked
  have served (p : Plan) : Returns (planned limits h.toHandlers mergeOrder p state).out ↔
      Fits limits p := by
    constructor
    · intro ⟨result, made⟩
      by_contra unfit
      obtain ⟨e, failed⟩ := planned_unfit limits mergeOrder p state unfit
      rw [failed] at made
      cases made
    · intro fits
      exact ⟨_, planned_fits limits h mergeOrder p state known fits⟩
  unfold runPlanningAgent madePlan
  simp only [returns_eff, Eff.lift_out, asked, bind_ok]
  have reported (made : MadePlan) : Returns (match made.plan with
      | none => Eff.lift (reportFailure made)
      | some p => planned limits h.toHandlers mergeOrder p state).out ↔ Delivers limits made := by
    obtain ⟨plan, reasoning, raw⟩ := made
    cases plan with
    | none =>
        show Returns (Eff.lift (reportFailure _)).out ↔ _
        rw [Eff.lift_out]
        exact reportFailure_returns_iff _
    | some p => exact served p
  constructor
  · intro ⟨_, _, reply, loaded, made, same, returns⟩
    exact ⟨made, ⟨reply, loaded, same⟩, (reported made).mp returns⟩
  · intro ⟨made, ⟨reply, loaded, same⟩, delivers⟩
    exact ⟨query, rfl, reply, loaded, made, same, (reported made).mpr delivers⟩

theorem offered_delivers_iff (limits : GraphLimits) (content : String) (reasoning : Json)
    (items : List Json) : Delivers limits (offered reader order content reasoning items) ↔
      ∀ p, Describes reader items reasoning p → Fits limits p := by
  unfold offered
  cases built : buildPlan reader order items reasoning with
  | ok p =>
      constructor
      · intro fits p' described
        rw [← buildPlan_ok_iff reader order, built] at described
        exact Except.ok.inj described ▸ fits
      · intro all
        exact all p ((buildPlan_ok_iff reader order items reasoning p).mp built)
  | error text =>
      refine iff_of_true ⟨_, rfl⟩ fun p described => ?_
      rw [← buildPlan_ok_iff reader order, built] at described
      cases described

def PlanHandles (limits : GraphLimits) : Loads → Prop
  | .decodeError => True
  | .value (.obj result) =>
      if (stepsField result).truthy then
        ∃ items, iterate (stepsField result) = .ok items ∧
          ∀ p, Describes reader items (reasoningField result) p → Fits limits p
      else ∃ s, reasoningField result = .str s
  | _ => False

theorem delivers_iff (limits : GraphLimits) (content : String) (loads : Loads) :
    (∃ made, madePlan reader order content loads = .ok made ∧ Delivers limits made) ↔
      PlanHandles reader limits loads := by
  cases loads with
  | raises e => exact iff_of_false (by simp [madePlan, Loads.reply]) id
  | decodeError => exact iff_of_true ⟨_, rfl, "", rfl⟩ trivial
  | value v =>
      cases v with
      | obj result =>
          rw [PlanHandles]
          cases listed : (stepsField result).truthy with
          | true =>
              rw [madePlan_listed reader order content listed, if_pos rfl]
              simp only [bind_ok, ← offered_delivers_iff reader order limits content]
              constructor
              · intro ⟨made, ⟨items, iterated, same⟩, delivers⟩
                obtain rfl := Except.ok.inj same
                exact ⟨items, iterated, delivers⟩
              · intro ⟨items, iterated, delivers⟩
                exact ⟨_, ⟨items, iterated, rfl⟩, delivers⟩
          | false =>
              rw [madePlan_unlisted reader order content listed, if_neg Bool.false_ne_true]
              constructor
              · intro ⟨made, same, delivers⟩
                obtain rfl := Except.ok.inj same
                exact delivers
              · intro delivers
                exact ⟨_, rfl, delivers⟩
      | _ => exact iff_of_false (by simp [madePlan, Loads.reply, makePlan]) id

structure Valid (p : Plan) : Prop where
  steps : ∀ s ∈ p.steps, s.validate = .ok ()
  dag : validateDag order p.steps = .ok ()

theorem plan_valid (p : Plan) : Valid order p where
  steps s _ := s.valid
  dag := by
    obtain ⟨order', accepted⟩ := p.accepted
    exact (validateDag_ok_iff p.steps order).mpr ((validateDag_ok_iff p.steps order').mp accepted)

end

section
variable {σ : Type} (w : StepWorld) (langChain : LangChain) (client : CoreServiceClient σ)
  (service : PlanStep → σ)
variable (read : PlanStep → ReadCourse) (stamp : PlanStep → Stamp) (hex : PlanStep → String)
variable (world : World) (random : RandomBytes) (limits : GraphLimits)
variable (mergeOrder : Superstep.MergeOrder Update) (reader : PlanReader) (order : SetOrder)
variable (userId sessionId userRole : Option String) (text : String) (history : List Message)
variable (normalized : Option String) (content : String) (loads : Loads)

/-- Which replies each agent survives, and that a plan that is made is valid. -/
theorem replies_survived_iff :
    (Returns (runQueryAgent w.builtins w.objects w.stores random (Loads.reply content loads)
        (typedView userId sessionId userRole text history normalized)) ↔
      QueryHandles loads) ∧
    (Returns (actionRun w.builtins.toRuntime world content loads
        (typedView userId sessionId userRole text history normalized)) ↔
      ActionHandles w.builtins.toRuntime world (typedSession userId sessionId userRole) loads) ∧
    (Returns (runPlanningAgent limits (lawfulStepHandlers w langChain client service read stamp hex).toHandlers
        mergeOrder reader order (Loads.reply content loads)
        (typedView userId sessionId userRole text history normalized)).out ↔
      PlanHandles reader limits loads) ∧
    (Returns (madePlan reader order content loads) ↔ MakesPlan loads) ∧
    ∀ made, madePlan reader order content loads = .ok made → ∀ p ∈ made.plan, Valid order p := by
  refine ⟨?_, ?_, ?_, ?_, ?_⟩
  · exact runQueryAgent_returns_iff w.builtins w.objects w.stores random
      (queryInput_typed userId sessionId userRole text history normalized) content loads
  · exact actionRun_returns_iff w.builtins.toRuntime world userId sessionId userRole text history
      normalized content loads
  · rw [← delivers_iff reader order limits content loads]
    exact runPlanningAgent_returns_iff reader order limits _ mergeOrder
      (userQuery_typed userId sessionId userRole text history normalized)
      (planSession_typed userId sessionId userRole text history normalized) content loads
  · exact madePlan_returns_iff reader order content loads
  · intro made _ p _
    exact plan_valid order p

end

/-! A reply that is a list. -/

def rejecting : PlanReader where
  readStep _ := .error "Field required"
  stepError _ message := message
  reasoningError _ := "Input should be a valid string"
  planError message := message

def listView : AgentView := typedView (some "u1") (some "session-1") (some "student") "my grades" [] none

theorem list_reply_raises :
    ¬ Returns (runQueryAgent .ascii mockWorld.objects mockStores (fun _ => 0)
        (Loads.reply "[]" (.value (.arr []))) listView) ∧
    ¬ Returns (actionRun .ascii WriteGate.openWorld "[]" (.value (.arr [])) listView) ∧
    ¬ Returns (runPlanningAgent ⟨fun _ => false, 25⟩ mockHandlers.toHandlers keepOrder rejecting
        ascending (Loads.reply "[]" (.value (.arr []))) listView).out ∧
    ¬ Returns (madePlan rejecting ascending "[]" (.value (.arr []))) := by
  refine ⟨?_, ?_, ?_, ?_⟩
  · exact (runQueryAgent_returns_iff .ascii mockWorld.objects mockStores _ rfl "[]" _).not.mpr id
  · exact (actionRun_returns_iff .ascii WriteGate.openWorld _ _ _ _ _ _ "[]" _).not.mpr id
  · intro returns
    obtain ⟨made, failed, -⟩ := (runPlanningAgent_returns_iff rejecting ascending _ mockHandlers
      keepOrder (userQuery_typed _ _ _ _ _ _) (planSession_typed _ _ _ _ _ _) "[]" _).mp returns
    cases failed
  · exact returns_error _

end RealityAI.Proof.Replies
