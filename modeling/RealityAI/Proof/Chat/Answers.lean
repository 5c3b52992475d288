import RealityAI.Proof.Chat.Attempts
import RealityAI.Proof.Chat.Turn
import RealityAI.Proof.OutputFilter
import RealityAI.Proof.Plan.Steps

namespace RealityAI.Proof.Chat
open Library Library.Regex Python Model.Safety Model.State Model.ActionAgent Model.Orchestrator
open Model.Gateway Model.OutputFilter Model.Chat InnerSafety WriteGate

structure SameSession (s s' : AgentState) : Prop where
  messages : s'.messages = s.messages
  user : s'.userId = s.userId
  session : s'.sessionId = s.sessionId
  role : s'.userRole = s.userRole

theorem SameSession.trans {a b c : AgentState} (first : SameSession a b)
    (second : SameSession b c) : SameSession a c :=
  ⟨second.messages.trans first.messages, second.user.trans first.user,
    second.session.trans first.session, second.role.trans first.role⟩

section
variable {rt : Runtime} {world : NodeWorld} {s s' : AgentState}

theorem runNode_keeps {node : Node} (ok : runNode rt world s node = .ok s') :
    SameSession s s' ∧ (node ≠ .agentRouting → s'.selectedAgent = s.selectedAgent) := by
  cases node with
  | intentClassification =>
      obtain ⟨_, -, ok⟩ := bind_ok.mp ok
      obtain ⟨reply, -, ok⟩ := bind_ok.mp ok
      obtain ⟨parsed, -, ok⟩ := bind_ok.mp ok
      cases ok
      exact ⟨⟨rfl, rfl, rfl, rfl⟩, fun _ => rfl⟩
  | agentRouting =>
      refine ⟨?_, fun other => absurd rfl other⟩
      change routeToAgent s = _ at ok
      unfold routeToAgent at ok
      repeat' split at ok
      all_goals cases ok
      all_goals exact ⟨rfl, rfl, rfl, rfl⟩
  | outerSafetyCheck =>
      obtain ⟨update, -, ok⟩ := bind_ok.mp ok
      cases ok
      exact ⟨⟨rfl, rfl, rfl, rfl⟩, fun _ => rfl⟩
  | corefResolver =>
      change corefResolverNode world.coref s = _ at ok
      unfold corefResolverNode at ok
      split at ok
      · cases ok
        exact ⟨⟨rfl, rfl, rfl, rfl⟩, fun _ => rfl⟩
      · obtain ⟨query, -, ok⟩ := bind_ok.mp ok
        split at ok
        all_goals cases ok
        all_goals exact ⟨⟨rfl, rfl, rfl, rfl⟩, fun _ => rfl⟩
  | hitlApproval =>
      obtain ⟨approved, -, ok⟩ := bind_ok.mp ok
      cases approved
      all_goals cases ok
      all_goals exact ⟨⟨rfl, rfl, rfl, rfl⟩, fun _ => rfl⟩
  | rejectNode =>
      cases ok
      exact ⟨⟨rfl, rfl, rfl, rfl⟩, fun _ => rfl⟩
  | execution =>
      change executeAgent rt world.agents s = _ at ok
      unfold executeAgent at ok
      dsimp only at ok
      repeat' split at ok
      all_goals obtain ⟨result, -, ok⟩ := bind_ok.mp ok
      all_goals cases ok
      all_goals exact ⟨⟨rfl, rfl, rfl, rfl⟩, fun _ => rfl⟩
  | responseGeneration =>
      cases ok
      exact ⟨⟨rfl, rfl, rfl, rfl⟩, fun _ => rfl⟩
  | outputFilter =>
      change outputFilterNode rt s = _ at ok
      unfold outputFilterNode at ok
      split at ok
      all_goals cases ok
      all_goals exact ⟨⟨rfl, rfl, rfl, rfl⟩, fun _ => rfl⟩

end

/-! ## The course of one message -/

section
variable (w : ChatWorld) (s : AgentState)

structure Judged (judged : AgentState) : Prop where
  front : Front.front w.steps.builtins.toInterpreter w.guard w.intentReply s = .ok judged
  session : SameSession s judged
  agent : ∃ entry ∈ agentMap, judged.selectedAgent = some entry.2

/-- What the graph does with one message. -/
inductive TurnRun : Eff PyExc Event AgentState → Prop
  | failed (e : PyExc) : TurnRun ⟨[], .error e⟩
  | paused {judged : AgentState} : Judged w s judged →
      routeAfterOuterSafety judged = .flagForReview →
      TurnRun ⟨[], w.interrupted.map fun _ => judged⟩
  | denied {judged : AgentState} : Judged w s judged → routeAfterOuterSafety judged = .deny →
      TurnRun ⟨[], outputFilterNode w.rt (generateResponse (rejectNode judged))⟩
  | executed {judged resolved : AgentState} : Judged w s judged →
      routeAfterOuterSafety judged = .allow →
      corefResolverNode w.nodeWorld.coref judged = .ok resolved →
      TurnRun ⟨w.agentLog resolved, executeAgent w.rt w.nodeWorld.agents resolved >>= fun final =>
        outputFilterNode w.rt (generateResponse final)⟩

variable {w s}

theorem node_eq {node : Node} (quiet : node ≠ .execution) (s : AgentState) :
    w.node node s = Eff.lift (runNode w.rt w.nodeWorld s node) := by
  unfold ChatWorld.node
  rw [if_neg quiet]
  cases runNode w.rt w.nodeWorld s node <;> rfl

theorem finish_eq (s : AgentState) :
    w.finish s = Eff.lift (outputFilterNode w.rt (generateResponse s)) := by
  unfold ChatWorld.finish
  rw [node_eq (by decide)]
  show (pure (generateResponse s) >>= w.node .outputFilter : Eff PyExc Event AgentState) = _
  rw [Eff.pure_bind', node_eq (by decide)]
  rfl

theorem routeToAgent_agent {s' : AgentState} (ok : routeToAgent s = .ok s') :
    ∃ entry ∈ agentMap, s'.selectedAgent = some entry.2 := by
  have fallback : ∃ entry ∈ agentMap, some "query_agent" = some entry.2 :=
    ⟨("query", "query_agent"), by decide, rfl⟩
  unfold routeToAgent at ok
  split at ok
  · rename_i intent _
    cases ok
    cases found : agentMap.lookup intent with
    | none => simpa [found] using fallback
    | some agent =>
        obtain ⟨before, after, same, -⟩ := List.lookup_eq_some_iff.mp found
        refine ⟨(intent, agent), ?_, rfl⟩
        rw [same]
        exact List.mem_append_right _ List.mem_cons_self
  · split at ok
    · cases ok
      exact fallback
    · cases ok

theorem node_bind {node : Node} (quiet : node ≠ .execution) {s s' : AgentState}
    (ok : runNode w.rt w.nodeWorld s node = .ok s')
    (f : AgentState → Eff PyExc Event AgentState) : (w.node node s >>= f) = f s' := by
  rw [node_eq quiet, ok]
  exact Eff.pure_bind' _ _

theorem node_raises {node : Node} (quiet : node ≠ .execution) {s : AgentState} {e : PyExc}
    (raises : runNode w.rt w.nodeWorld s node = .error e)
    (f : AgentState → Eff PyExc Event AgentState) : (w.node node s >>= f) = ⟨[], .error e⟩ := by
  rw [node_eq quiet, raises]
  rfl

theorem front_judged {classified routed judged : AgentState}
    (first : runNode w.rt w.nodeWorld s .intentClassification = .ok classified)
    (second : runNode w.rt w.nodeWorld classified .agentRouting = .ok routed)
    (third : runNode w.rt w.nodeWorld routed .outerSafetyCheck = .ok judged) :
    Judged w s judged where
  front := bind_ok.mpr ⟨classified, first, bind_ok.mpr ⟨routed, second, third⟩⟩
  session := ((runNode_keeps first).1.trans (runNode_keeps second).1).trans (runNode_keeps third).1
  agent := by
    obtain ⟨entry, mem, same⟩ := routeToAgent_agent second
    exact ⟨entry, mem, ((runNode_keeps third).2 (by decide)).trans same⟩

theorem turnRun : TurnRun w s (w.ainvoke s) := by
  unfold ChatWorld.ainvoke
  cases first : runNode w.rt w.nodeWorld s .intentClassification with
  | error e =>
      rw [node_raises (by decide) first]
      exact .failed e
  | ok classified =>
  rw [node_bind (by decide) first]
  cases second : runNode w.rt w.nodeWorld classified .agentRouting with
  | error e =>
      rw [node_raises (by decide) second]
      exact .failed e
  | ok routed =>
  rw [node_bind (by decide) second]
  cases third : runNode w.rt w.nodeWorld routed .outerSafetyCheck with
  | error e =>
      rw [node_raises (by decide) third]
      exact .failed e
  | ok judged =>
  rw [node_bind (by decide) third]
  have reached := front_judged first second third
  cases route : routeAfterOuterSafety judged with
  | deny =>
      show TurnRun w s (w.node .rejectNode judged >>= w.finish)
      have moved : runNode w.rt w.nodeWorld judged .rejectNode = .ok (rejectNode judged) := rfl
      rw [node_bind (by decide) moved, finish_eq]
      have run := TurnRun.denied reached route
      cases out : outputFilterNode w.rt (generateResponse (rejectNode judged)) <;>
        rwa [out] at run
  | flagForReview =>
      have run := TurnRun.paused reached route
      show TurnRun w s (Eff.lift w.interrupted >>= fun _ => pure judged)
      cases out : w.interrupted <;> rwa [out] at run
  | allow =>
      show TurnRun w s (w.node .corefResolver judged >>= fun s => w.node .execution s >>= w.finish)
      cases fourth : runNode w.rt w.nodeWorld judged .corefResolver with
      | error e =>
          rw [node_raises (by decide) fourth]
          exact .failed e
      | ok resolved =>
          have run := TurnRun.executed reached route fourth
          rw [node_bind (by decide) fourth]
          cases fifth : executeAgent w.rt w.nodeWorld.agents resolved with
          | error e =>
              have out : (w.node .execution resolved).out = .error e := fifth
              rw [fifth] at run
              rw [Eff.bind_error out]
              exact run
          | ok final =>
              have out : (w.node .execution resolved).out = .ok final := fifth
              rw [fifth] at run
              rw [Eff.bind_ok out, finish_eq, Eff.lift_log, Eff.lift_out, List.append_nil]
              exact run

/-! ## Events -/

/-- A model sends arguments that LangChain takes for a call. -/
def ModelSendsToolCall (w : ChatWorld) : Prop :=
  (∃ reply, w.actionReply = .ok reply ∧ SendsToolCall reply) ∨
    MakesToolCall w.reader w.setOrder w.planReply

theorem agentLog_student {userId sessionId : String} {s : AgentState}
    (sees : StudentView userId sessionId (agentView s)) :
    StudentLog (¬ ModelSendsToolCall w) userId sessionId (w.agentLog s) := by
  unfold ChatWorld.agentLog
  dsimp only
  split
  · unfold ChatWorld.runActionAgent
    cases actionInput (agentView s) with
    | error e => exact .nil
    | ok input =>
        cases replied : w.actionReply with
        | error e => exact .nil
        | ok reply =>
            show StudentLog _ _ _ (pure input >>= fun _ => pure reply >>= fun reply =>
              runActionAgent w.rt w.action reply (agentView s) : Eff PyExc Event AgentResult).log
            rw [Eff.pure_bind', Eff.pure_bind']
            refine (runActionAgent_student sees reply).studentLog.imp fun plain sends => plain ?_
            exact .inl ⟨reply, replied, sends⟩
  · split
    · unfold ChatWorld.runPlanningAgent
      rw [Eff.map_log]
      exact (runPlanningAgent_student w.reader w.setOrder w.planReply sees).imp fun plain sends =>
        plain (.inr sends)
    · exact .nil

theorem studentView_initial {user : TokenData} {request : ChatRequest} {judged resolved : AgentState}
    (session : SameSession (initialState user request) judged) (kept : SameSession judged resolved) :
    StudentView user.userId (sessionIdOf user request) (agentView resolved) where
  user := (session.trans kept).user
  session := (session.trans kept).session
  role := (session.trans kept).role

end

theorem answer_acts (w : ChatWorld) (user : TokenData) (request : ChatRequest) :
    (answer w user request).log = [] ∨
    ∃ judged, Front.front w.steps.builtins.toInterpreter w.guard w.intentReply
        (initialState user request) = .ok judged ∧
      routeAfterOuterSafety judged = .allow ∧
      StudentLog (¬ ModelSendsToolCall w) user.userId (sessionIdOf user request)
        (answer w user request).log := by
  rw [answer, Eff.bind_lift_log]
  have run := turnRun (w := w) (s := initialState user request)
  generalize w.ainvoke (initialState user request) = x at run
  cases run with
  | failed | paused | denied => exact .inl rfl
  | executed reached route resolves =>
      have ran : runNode w.rt w.nodeWorld _ .corefResolver = .ok _ := resolves
      have kept := (runNode_keeps ran).1
      exact .inr ⟨_, reached.front, route,
        agentLog_student (studentView_initial reached.session kept)⟩

/-- Whoever asks and whatever the models answer: `/chat` does nothing unless outer safety allows
the message, and what it does then is a sequence of attempts of the caller as a student, each of
them about the caller's own enrollment and recorded unless a model sends a call of LangChain. -/
theorem chat_acts_as_student (decode : Decode) (w : ChatWorld) (token : String)
    (request : ChatRequest) :
    (chat decode w token request).log = [] ∨
    ∃ user judged, verifyToken decode token = .ok user ∧
      Front.front w.steps.builtins.toInterpreter w.guard w.intentReply (initialState user request) =
        .ok judged ∧
      routeAfterOuterSafety judged = .allow ∧
      StudentLog (¬ ModelSendsToolCall w) user.userId (sessionIdOf user request)
        (chat decode w token request).log := by
  unfold chat
  cases verified : verifyToken decode token with
  | error e => exact .inl rfl
  | ok user =>
      rcases answer_acts w user request with quiet | ⟨judged, front, route, own⟩
      · exact .inl quiet
      · exact .inr ⟨user, judged, rfl, front, route, own⟩

/-! ## Answers -/

theorem patterns_clean_nil (t : CharTables) (p : Pattern) : p.Clean t [] := by
  intro pre w post split found
  have empty := (List.append_eq_nil_iff.mp (List.append_eq_nil_iff.mp split.symm).1).2
  exact found.ne_nil t empty

section
variable {w : ChatWorld} {s final : AgentState}

theorem outputFilterNode_clean {text : String}
    (ok : outputFilterNode w.rt (generateResponse s) = .ok final)
    (answered : strField (final.response.getD (.str "")) = .ok text) :
    ∀ p ∈ OutputFilter.patterns, p.Clean w.rt.tables text.toList := by
  obtain ⟨source, same⟩ := Orchestrator.outputFilterNode_response w.rt ok
  have value : (final.response.getD .null).or (.str "") = .str text := by
    have here := strField_ok answered
    cases response : final.response with
    | none =>
        rw [response] at here
        cases here
        rfl
    | some v =>
        rw [response] at here
        rw [Option.getD_some] at here ⊢
        rw [here, Json.str_or_empty]
  rw [Json.str.inj (value.symm.trans same)]
  exact OutputFilter.redactedText_clean w.rt source

theorem front_response {judged : AgentState}
    (ok : Front.front w.steps.builtins.toInterpreter w.guard w.intentReply s = .ok judged) :
    judged.response = s.response := by
  obtain ⟨classified, first, ok⟩ := bind_ok.mp ok
  obtain ⟨routed, second, third⟩ := bind_ok.mp ok
  obtain ⟨_, -, first⟩ := bind_ok.mp first
  obtain ⟨reply, -, first⟩ := bind_ok.mp first
  obtain ⟨parsed, -, first⟩ := bind_ok.mp first
  obtain ⟨update, -, third⟩ := bind_ok.mp third
  cases first
  cases third
  unfold routeToAgent at second
  repeat' split at second
  all_goals cases second
  all_goals rfl

theorem TurnRun.result {x : Eff PyExc Event AgentState} (run : TurnRun w s x)
    (ok : x.out = .ok final) :
    (∃ entry ∈ agentMap, final.selectedAgent = some entry.2) ∧
      (final.response = s.response ∨
        ∃ before, outputFilterNode w.rt (generateResponse before) = .ok final) := by
  have filtered (before : AgentState) {final : AgentState}
      (ok : outputFilterNode w.rt (generateResponse before) = .ok final) :
      final.selectedAgent = before.selectedAgent := by
    have ran : runNode w.rt w.nodeWorld (generateResponse before) .outputFilter = .ok final := ok
    exact (runNode_keeps ran).2 (by decide)
  cases run with
  | failed => cases ok
  | @paused judged reached =>
      cases interrupted : w.interrupted with
      | error e =>
          rw [interrupted] at ok
          cases ok
      | ok value =>
          rw [interrupted] at ok
          cases ok
          exact ⟨reached.agent, .inl (front_response reached.front)⟩
  | @denied judged reached =>
      refine ⟨?_, .inr ⟨_, ok⟩⟩
      rw [filtered _ ok]
      exact reached.agent
  | @executed judged resolved reached route resolves =>
      obtain ⟨executed, ran, ok⟩ := bind_ok.mp ok
      refine ⟨?_, .inr ⟨_, ok⟩⟩
      have resolved : runNode w.rt w.nodeWorld _ .corefResolver = .ok _ := resolves
      have first := (runNode_keeps resolved).2 (by decide)
      have done : runNode w.rt w.nodeWorld _ .execution = .ok _ := ran
      have second := (runNode_keeps done).2 (by decide)
      rw [filtered _ ok, second, first]
      exact reached.agent

end

/-- Every answer names the agent that the intent was mapped to, and its text contains nothing of
what the output filter looks for. -/
theorem chat_answers_clean (decode : Decode) (w : ChatWorld) (token : String)
    (request : ChatRequest) {response : ChatResponse}
    (answered : (chat decode w token request).out = .ok response) :
    (∃ user, verifyToken decode token = .ok user ∧
      response.sessionId = sessionIdOf user request) ∧
    (∃ entry ∈ agentMap, response.selectedAgent = entry.2) ∧
    ∀ entry ∈ registry, ∀ p ∈ entry.2, p.Clean w.rt.tables response.response.toList := by
  unfold chat at answered
  cases verified : verifyToken decode token with
  | error e =>
      rw [verified] at answered
      cases answered
  | ok user =>
      rw [verified] at answered
      dsimp only [answer] at answered
      cases out : (w.ainvoke (initialState user request) >>= fun result =>
          Eff.lift (chatResponse (sessionIdOf user request) result)).out with
      | error e =>
          rw [out] at answered
          cases answered
      | ok value =>
          rw [out] at answered
          obtain rfl : value = response := Except.ok.inj answered
          obtain ⟨final, done, rendered⟩ := Eff.bind_out_ok.mp out
          rw [Eff.lift_out] at rendered
          obtain ⟨text, isText, rendered⟩ := bind_ok.mp rendered
          obtain ⟨intent, -, rendered⟩ := bind_ok.mp rendered
          cases rendered
          obtain ⟨⟨entry, mem, agent⟩, written⟩ := turnRun.result done
          refine ⟨⟨user, rfl, rfl⟩, ⟨entry, mem, by simp only [agent, Option.getD_some]⟩, ?_⟩
          intro entry mem p inside
          rcases written with untouched | ⟨before, filtered⟩
          · rw [untouched] at isText
            obtain rfl : "" = text := Except.ok.inj isText
            exact patterns_clean_nil w.rt.tables p
          · exact outputFilterNode_clean filtered isText p (List.mem_flatMap.mpr ⟨entry, mem, inside⟩)

/-! An instructor asks a question, and the model answers it without a data source. -/

def questionWorld : ChatWorld where
  intentReply := .ok ⟨.str "\x7b\"intent\": \"query\"\x7d", some (.obj [("intent", .str "query")])⟩
  guard := ⟨fun _ _ => .ok ⟨.benign, .finite false [0] 0⟩⟩
  corefAnswer := .error ⟨.other, "not asked"⟩
  corefThreshold := 1 / 2
  actionReply := .error ⟨.other, "not asked"⟩
  action := openWorld
  queryReply := .ok ⟨.str "Flagged from FLAG_THRESHOLD on", none⟩
  random _ := 0
  planReply := .error ⟨.other, "not asked"⟩
  reader := ⟨fun _ => .error "", fun _ _ => "", fun _ => "", fun _ => ""⟩
  setOrder := Plan.ascending
  limits := ⟨fun _ => false, 25⟩
  order := Plan.keepOrder
  steps := Plan.mockWorld
  attempts _ := openWorld
  interrupted := .error ⟨.other, "no checkpointer"⟩

def smithToken : Decode := fun _ =>
  .ok [("sub", .str "instructor_smith"), ("role", .str "instructor")]

def flagAnswer : ChatResponse where
  response := "Flagged from [REDACTED] on"
  intent := "query"
  selectedAgent := "query_agent"
  sessionId := "instructor_smith-default"

theorem flag_answer_clean :
    (∃ user, verifyToken smithToken "token" = .ok user ∧
      flagAnswer.sessionId = sessionIdOf user ⟨"When is my request flagged?", none⟩) ∧
    (∃ entry ∈ agentMap, flagAnswer.selectedAgent = entry.2) ∧
    ∀ entry ∈ registry, ∀ p ∈ entry.2, p.Clean questionWorld.rt.tables flagAnswer.response.toList :=
  chat_answers_clean smithToken questionWorld "token" ⟨"When is my request flagged?", none⟩ (by rfl)

end RealityAI.Proof.Chat
