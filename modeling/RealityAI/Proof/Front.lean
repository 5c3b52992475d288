import RealityAI.Model.Orchestrator
import RealityAI.Proof.OuterTiers

/-!
# From the message to the verdict

`classify_intent`, `route_to_agent` and `outer_safety_check`, one after the other, for every reply
of the model that classifies the intent.
-/

namespace RealityAI.Proof.Front
open Python Model.Safety Model.OuterTiers Model.Orchestrator Proof.OuterTiers

def front (it : Interpreter) (guard : PromptGuard) (reply : Except PyExc Reply) (s : AgentState) :
    Except PyExc AgentState := do
  let classified ← classifyIntent reply s
  let routed ← routeToAgent classified
  outerSafetyNode (outerTiers it guard) routed

structure Reaches (out : Except PyExc AgentState) (s' : AgentState) : Prop where
  completes : out = .ok s'
  agent : ∃ entry ∈ agentMap, s'.selectedAgent = some entry.2
  verdict : s'.outerSafetyResult.isSome

def TextOrMissing (v : Option Json) : Prop := ∀ j ∈ v, ∃ text, j = .str text

structure WellTyped (s : AgentState) : Prop where
  started : s.messages ≠ []
  contents : ∀ m ∈ s.messages, ∃ text, m.content = .str text
  role : TextOrMissing s.userRole

/-- `json.loads` returns or fails as the code expects, and an object has no intent or a text. -/
def HasIntent : Loads → Prop
  | .value (.obj result) => TextOrMissing (Dict.get? result "intent")
  | .value _ | .decodeError => True
  | .raises _ => False

section
variable {it : Interpreter} {guard : PromptGuard} {s : AgentState} {view : OuterView}

theorem textOrMissing_iff (v : Option Json) (default : String) :
    TextOrMissing v ↔ ∃ text, v.getD (.str default) = .str text := by
  unfold TextOrMissing
  cases v <;> simp

theorem strField_getD (v : Option Json) (default : String) :
    (∃ text, strField (v.getD (.str default)) = .ok text) ↔ TextOrMissing v := by
  rw [textOrMissing_iff v default]
  cases v.getD (.str default) <;> simp [strField]

theorem buildInput_ok_iff :
    (∃ input, buildInput view = .ok input) ↔
      TextOrMissing view.userId ∧ TextOrMissing view.sessionId ∧ TextOrMissing view.userRole ∧
        TextOrMissing view.intent ∧ TextOrMissing (view.messages.getLast?.map Message.content) := by
  rw [← strField_getD view.userId "", ← strField_getD view.sessionId "",
    ← strField_getD view.userRole "student", ← strField_getD view.intent "",
    ← strField_getD _ ""]
  simp only [buildInput, sessionContext, bind, Except.bind, pure, Except.pure]
  cases strField (view.userId.getD (.str "")) with
  | error e => simp only [reduceCtorEq, exists_false, false_and]
  | ok userId =>
  cases strField (view.sessionId.getD (.str "")) with
  | error e => simp only [reduceCtorEq, exists_false, false_and, and_false]
  | ok sessionId =>
  cases strField (view.userRole.getD (.str "student")) with
  | error e => simp only [reduceCtorEq, exists_false, false_and, and_false]
  | ok userRole =>
  cases strField (view.intent.getD (.str "")) with
  | error e => simp only [reduceCtorEq, exists_false, false_and, and_false]
  | ok intent =>
  cases strField ((view.messages.getLast?.map Message.content).getD (.str "")) with
  | error e => simp only [reduceCtorEq, exists_false, and_false]
  | ok query => simp only [Except.ok.injEq, exists_eq', and_self]

theorem outerSafetyNode_ok_iff :
    (∃ s', outerSafetyNode (outerTiers it guard) s = .ok s') ↔
      ∃ input, buildInput (outerView s) = .ok input := by
  constructor
  · rintro ⟨s', done⟩
    cases built : buildInput (outerView s) with
    | ok input => exact ⟨input, rfl⟩
    | error e => simp [outerSafetyNode, outerSafetyCheck, built, bind, Except.bind] at done
  · rintro ⟨input, built⟩
    obtain ⟨update, checked, -⟩ := outerSafetyCheck_final it guard built
    exact ⟨_, by simp only [outerSafetyNode, checked, bind, Except.bind]; rfl⟩

theorem outerSafetyNode_judges {s' : AgentState}
    (done : outerSafetyNode (outerTiers it guard) s = .ok s') :
    s'.selectedAgent = s.selectedAgent ∧ s'.outerSafetyResult.isSome := by
  unfold outerSafetyNode at done
  cases checked : outerSafetyCheck (outerTiers it guard) (outerView s) with
  | error e =>
      rw [checked] at done
      cases done
  | ok update =>
      rw [checked] at done
      cases done
      exact ⟨rfl, rfl⟩

def intentOf : Loads → Json
  | .value (.obj result) => (Dict.get? result "intent").getD (.str "query")
  | _ => .str "query"

def confidenceOf : Loads → Json
  | .value (.obj result) => (Dict.get? result "confidence").getD (.float (.finite false [5] 0))
  | _ => .float (.finite false [5] 0)

def classified (loads : Loads) (s : AgentState) : AgentState :=
  { s with intent := some (intentOf loads), intentConfidence := some (confidenceOf loads) }

theorem lastContent_ok (started : s.messages ≠ []) : ∃ v, lastContent s = .ok v := by
  unfold lastContent
  rw [List.getLast?_eq_some_getLast started]
  exact ⟨_, rfl⟩

theorem classifyIntent_raises (content : String) (e : PyExc) :
    ∃ e', classifyIntent (Loads.reply content (.raises e)) s = .error e' := by
  unfold classifyIntent
  cases lastContent s with
  | error e' => exact ⟨e', rfl⟩
  | ok v => exact ⟨e, rfl⟩

theorem classifyIntent_ok {loads : Loads} {content : String} {reply : Reply}
    (replied : loads.reply content = .ok reply) (started : s.messages ≠ []) :
    classifyIntent (.ok reply) s = .ok (classified loads s) := by
  obtain ⟨last, here⟩ := lastContent_ok started
  simp only [classifyIntent, here, bind, Except.bind]
  cases loads with
  | raises e => cases replied
  | decodeError =>
      cases replied
      rfl
  | value v =>
      cases replied
      cases v <;> rfl

theorem routeToAgent_text {text : String} (intent : s.intent = some (.str text)) :
    ∃ agent, routeToAgent s = .ok { s with selectedAgent := some agent } ∧
      ∃ entry ∈ agentMap, agent = entry.2 := by
  unfold routeToAgent
  rw [intent]
  refine ⟨_, rfl, ?_⟩
  cases found : agentMap.lookup text with
  | none => exact ⟨("query", "query_agent"), by decide, rfl⟩
  | some agent =>
      obtain ⟨before, after, same, -⟩ := List.lookup_eq_some_iff.mp found
      exact ⟨(text, agent), by rw [same]; exact List.mem_append_right _ List.mem_cons_self, rfl⟩

theorem routeToAgent_intent {s' : AgentState} (routed : routeToAgent s = .ok s') :
    outerView s' = outerView s := by
  unfold routeToAgent at routed
  split at routed
  · cases routed
    rfl
  · split at routed
    · cases routed
      rfl
    · cases routed

theorem hasIntent_iff {loads : Loads} {content : String} {reply : Reply}
    (replied : loads.reply content = .ok reply) :
    HasIntent loads ↔ ∃ text, intentOf loads = .str text := by
  cases loads with
  | raises e => cases replied
  | decodeError => exact iff_of_true trivial ⟨"query", rfl⟩
  | value v =>
      cases v with
      | obj result => exact textOrMissing_iff _ "query"
      | _ => exact iff_of_true trivial ⟨"query", rfl⟩

theorem buildInput_classified (typed : WellTyped s) (loads : Loads) :
    (∃ input, buildInput (outerView (classified loads s)) = .ok input) ↔
      (∃ text, intentOf loads = .str text) ∧ TextOrMissing s.userId ∧
        TextOrMissing s.sessionId := by
  have query : TextOrMissing (s.messages.getLast?.map Message.content) := by
    rintro j present
    obtain ⟨m, last, same⟩ := Option.map_eq_some_iff.mp present
    exact same ▸ typed.contents m (List.mem_of_getLast? last)
  have intent : TextOrMissing (some (intentOf loads)) ↔ ∃ text, intentOf loads = .str text := by
    simp [TextOrMissing]
  rw [buildInput_ok_iff, ← intent]
  constructor
  · rintro ⟨user, session, -, text, -⟩
    exact ⟨text, user, session⟩
  · rintro ⟨text, user, session⟩
    exact ⟨user, session, typed.role, text, query⟩

end

/-- The front of the graph reaches a verdict on exactly these replies and sessions: `json.loads`
does not raise another exception, an object has no intent or a text, and the ids are texts. -/
theorem front_reaches_iff (it : Interpreter) (guard : PromptGuard) (content : String)
    (loads : Loads) (s : AgentState) (typed : WellTyped s) :
    (∃ s', Reaches (front it guard (loads.reply content) s) s') ↔
      HasIntent loads ∧ TextOrMissing s.userId ∧ TextOrMissing s.sessionId := by
  cases replied : loads.reply content with
  | error e =>
      have raised : ∃ e', loads = .raises e' := by
        cases loads with
        | raises e' => exact ⟨e', rfl⟩
        | value v => cases replied
        | decodeError => cases replied
      obtain ⟨e', rfl⟩ := raised
      obtain ⟨e'', fails⟩ := classifyIntent_raises (s := s) content e'
      refine iff_of_false ?_ nofun
      rintro ⟨s', completes, -, -⟩
      rw [← replied, front, fails] at completes
      cases completes
  | ok reply =>
      rw [hasIntent_iff replied, ← buildInput_classified typed loads]
      have steps : front it guard (.ok reply) s =
          routeToAgent (classified loads s) >>= outerSafetyNode (outerTiers it guard) := by
        rw [front, classifyIntent_ok replied typed.started]
        rfl
      rw [steps]
      constructor
      · rintro ⟨s', completes, -, -⟩
        cases routed : routeToAgent (classified loads s) with
        | error e =>
            rw [routed] at completes
            cases completes
        | ok s₁ =>
            rw [routed] at completes
            rw [← routeToAgent_intent routed]
            exact outerSafetyNode_ok_iff.mp ⟨s', completes⟩
      · intro built
        obtain ⟨⟨text, intent⟩, -⟩ := (buildInput_classified typed loads).mp built
        obtain ⟨agent, routed, entry⟩ :=
          routeToAgent_text (s := classified loads s) (congrArg some intent)
        rw [← routeToAgent_intent routed] at built
        obtain ⟨s', done⟩ := outerSafetyNode_ok_iff.mpr built
        obtain ⟨kept, verdict⟩ := outerSafetyNode_judges done
        refine ⟨s', ?_, ?_, verdict⟩
        · rw [routed]
          exact done
        · obtain ⟨entry, mem, same⟩ := entry
          exact ⟨entry, mem, by rw [kept, same]⟩

/-! The model answers with a list, a number or a text as the intent. -/

def greeting : AgentState where
  messages := [⟨.str "Hello"⟩]
  userId := some (.str "S001")
  sessionId := some (.str "T1")
  userRole := some (.str "student")

def intends (v : Json) : Loads := .value (.obj [("intent", v)])

def frontWith (loads : Loads) : Except PyExc AgentState :=
  front .ascii (scores .benign [9, 9]) (loads.reply "") greeting

theorem odd_intents_raise :
    (frontWith (intends (.arr [.str "query"]))).toOption.isNone ∧
      (frontWith (intends (.int 3))).toOption.isNone ∧ (frontWith (intends .null)).toOption.isNone :=
  ⟨rfl, rfl, rfl⟩

theorem greeting_typed : WellTyped greeting where
  started := List.cons_ne_nil _ _
  contents m here := by
    obtain rfl := List.mem_singleton.mp here
    exact ⟨"Hello", rfl⟩
  role j present := ⟨"student", (Option.some.inj present).symm⟩

theorem planning_intent_reaches : ∃ s', Reaches (frontWith (intends (.str "planning"))) s' :=
  (front_reaches_iff .ascii (scores .benign [9, 9]) "" (intends (.str "planning")) greeting
    greeting_typed).mpr
    ⟨fun _ present => ⟨"planning", (Option.some.inj present).symm⟩,
      fun _ present => ⟨"S001", (Option.some.inj present).symm⟩,
      fun _ present => ⟨"T1", (Option.some.inj present).symm⟩⟩

end RealityAI.Proof.Front
