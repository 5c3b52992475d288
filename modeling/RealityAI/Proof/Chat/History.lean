import RealityAI.Proof.Chat.Answers

namespace RealityAI.Proof.Chat
open Library Python Model.Safety Model.OuterTiers Model.ActionAgent Model.Orchestrator Model.Gateway
open Model.Chat InnerSafety

section
variable {w : ChatWorld} {guard : PromptGuard} {answer : Except PyExc RewrittenQuery} {threshold : Rat}
variable {s : AgentState} {text : String}

def remembering (w : ChatWorld) (guard : PromptGuard) (answer : Except PyExc RewrittenQuery)
    (threshold : Rat) : ChatWorld :=
  { w with guard, corefAnswer := answer, corefThreshold := threshold }

theorem outerSafetyNode_alone (it : Interpreter)
    (same : ∀ query, guard.classify query [] = w.guard.classify query [])
    (alone : s.messages = [⟨.str text⟩]) :
    outerSafetyNode (outerTiers it guard) s = outerSafetyNode (outerTiers it w.guard) s := by
  have checked : outerSafetyCheck (outerTiers it guard) (outerView s) =
      outerSafetyCheck (outerTiers it w.guard) (outerView s) := by
    unfold outerSafetyCheck
    cases built : buildInput (outerView s) with
    | error e => rfl
    | ok input =>
        have first : input.conversationHistory = [] := by
          obtain ⟨session, -, built⟩ := bind_ok.mp built
          obtain ⟨intent, -, built⟩ := bind_ok.mp built
          obtain ⟨query, -, built⟩ := bind_ok.mp built
          cases built
          show (outerView s).messages.dropLast = []
          rw [show (outerView s).messages = _ from alone]
          rfl
        have injection : checkInjection guard input = checkInjection w.guard input := by
          unfold checkInjection
          rw [first, same]
        simp only [outerTiers, bind, Except.bind, injection]
  unfold outerSafetyNode
  rw [checked]

theorem corefResolverNode_alone (coref : Coref) (alone : s.messages = [⟨.str text⟩])
    (gate : coref.needsCoref = Model.CorefGate.needsCoref w.steps.builtins) :
    corefResolverNode coref s = .ok { s with
      rewrittenQuery := some ⟨text, text, 1⟩
      userQueryNormalized := some (.str text) } := by
  have silent : Model.CorefGate.needsCoref w.steps.builtins text [] = false := rfl
  unfold corefResolverNode
  rw [alone]
  show (if coref.needsCoref text [] then _ else _) = _
  rw [gate, silent]
  rfl

theorem node_keeps {node : Node} {s' : AgentState} (ok : (w.node node s).out = .ok s') :
    s'.messages = s.messages := by
  have ran : runNode w.rt w.nodeWorld s node = .ok s' := ok
  exact (runNode_keeps ran).1.messages

theorem bind_congr {x : Eff PyExc Event AgentState} {f g : AgentState → Eff PyExc Event AgentState}
    (same : ∀ a, x.out = .ok a → f a = g a) : x >>= f = x >>= g := by
  cases out : x.out with
  | error e => rw [Eff.bind_error out, Eff.bind_error out]
  | ok a => rw [Eff.bind_ok out, Eff.bind_ok out, same a out]

theorem ainvoke_alone (same : ∀ query, guard.classify query [] = w.guard.classify query [])
    (alone : s.messages = [⟨.str text⟩]) :
    (remembering w guard answer threshold).ainvoke s = w.ainvoke s := by
  unfold ChatWorld.ainvoke
  apply bind_congr
  intro classified first
  apply bind_congr
  intro routed second
  have kept := (node_keeps second).trans (node_keeps first)
  have judge : (remembering w guard answer threshold).node .outerSafetyCheck routed =
      w.node .outerSafetyCheck routed := by
    rw [node_eq (by decide), node_eq (by decide)]
    exact congrArg Eff.lift (outerSafetyNode_alone _ same (kept.trans alone))
  rw [judge]
  apply bind_congr
  intro judged third
  have still := (node_keeps third).trans (kept.trans alone)
  cases routeAfterOuterSafety judged with
  | allow =>
      have resolve : (remembering w guard answer threshold).node .corefResolver judged =
          w.node .corefResolver judged := by
        rw [node_eq (by decide), node_eq (by decide)]
        apply congrArg Eff.lift
        show corefResolverNode _ judged = corefResolverNode _ judged
        rw [corefResolverNode_alone (w := w) _ still rfl, corefResolverNode_alone (w := w) _ still rfl]
      show (_ >>= fun s => _) = (_ >>= fun s => _)
      rw [resolve]
      rfl
  | _ => rfl

theorem front_messages {judged : AgentState}
    (ok : Front.front w.steps.builtins.toInterpreter w.guard w.intentReply s = .ok judged) :
    judged.messages = s.messages := by
  obtain ⟨classified, first, ok⟩ := bind_ok.mp ok
  obtain ⟨routed, second, third⟩ := bind_ok.mp ok
  exact (front_judged (w := w) first second third).session.messages

end

/-- The agents get the message as it was sent. -/
def PassedVerbatim (w : ChatWorld) (request : ChatRequest) : Prop :=
  ∀ user judged, Front.front w.steps.builtins.toInterpreter w.guard w.intentReply
    (initialState user request) = .ok judged →
      corefResolverNode w.nodeWorld.coref judged = .ok { judged with
        rewrittenQuery := some ⟨request.message, request.message, 1⟩
        userQueryNormalized := some (.str request.message) }

/-- Every message is judged and answered on its own: neither the model that resolves references nor
what the classifier would say with a history has any influence, in whatever session. -/
theorem chat_has_no_history (decode : Decode) (w : ChatWorld) (guard : PromptGuard)
    (answer : Except PyExc RewrittenQuery) (threshold : Rat)
    (same : ∀ query, guard.classify query [] = w.guard.classify query []) (token : String)
    (request : ChatRequest) :
    chat decode { w with guard, corefAnswer := answer, corefThreshold := threshold } token request =
      chat decode w token request ∧ PassedVerbatim w request := by
  constructor
  · unfold chat
    cases verifyToken decode token with
    | error e => rfl
    | ok user =>
        have run : ChatWorld.ainvoke
            { w with guard, corefAnswer := answer, corefThreshold := threshold }
            (initialState user request) = w.ainvoke (initialState user request) :=
          ainvoke_alone same rfl
        dsimp only [Model.Chat.answer]
        rw [run]
  · intro user judged ok
    exact corefResolverNode_alone (w := w) _ (front_messages ok) rfl

/-! A classifier that distrusts every history, and a model that would rewrite the question. -/

def wary : PromptGuard where
  classify
    | _, [] => .ok ⟨.benign, .finite false [0] 0⟩
    | _, _ => .ok ⟨.injection, .finite false [1] 1⟩

theorem wary_answers_alike :
    chat smithToken
      { questionWorld with
        guard := wary
        corefAnswer := .ok ⟨"Is it full?", "Is CS101 full?", 1⟩
        corefThreshold := 0 } "token" ⟨"Is it full?", some "session-1"⟩ =
      chat smithToken questionWorld "token" ⟨"Is it full?", some "session-1"⟩ ∧
      PassedVerbatim questionWorld ⟨"Is it full?", some "session-1"⟩ :=
  chat_has_no_history smithToken questionWorld wary _ 0 (fun _ => rfl) "token" _

end RealityAI.Proof.Chat
