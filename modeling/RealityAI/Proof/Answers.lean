import RealityAI.Proof.Query
import RealityAI.Proof.Plan.Grounding

namespace RealityAI.Proof.Answers
open Library Python Model.Schemas Model.State Model.Safety Model.PlanningAgent Model.ActionAgent
open Model.QueryAgent Query InnerSafety Grounding Plan Transcripts

section
variable (b : Builtins) (t : ObjectTexts) (stores : DataStores) (random : RandomBytes)

/-- A text that renders what a source has returned; the transcript of a user who has none is one
without entries. -/
def FromSource (source : QuerySource) (response : String) : Prop :=
  ∃ params result, sourceHandler b t stores source params = .ok result ∧
    Grounded stores result.value ∧ response = formatTypedResult b.toRuntime random result

inductive NoAnswer : String → Prop where
  | unknownSource (name : Json) : NoAnswer ("Unknown data source: " ++ b.str name)
  | failed (e : PyExc) : NoAnswer ("Query failed: " ++ e.text)

variable {b t stores random}

theorem sourceOf_some {name : Json} {source : QuerySource} (found : sourceOf name = some source) :
    name = .str (QuerySource.value source) := by
  have named := List.find?_some found
  cases name with
  | str text => exact congrArg Json.str (eq_of_beq named)
  | _ => cases named

theorem spoken {s : Model.QueryAgent.InternalState} {head tail : String}
    (text : s.responseText = some (head ++ tail)) (some_char : head ≠ "") :
    formatQueryResponse b random s = s := by
  apply if_pos
  rw [InternalState.responded, text, Option.getD_some, bne_iff_ne, ne_eq, String.append_eq_empty_iff,
    not_and]
  exact fun empty => absurd empty some_char

variable (b t stores) in
theorem execute_unknown (text : String) {decision : Dict}
    (named : sourceOf (sourceField decision) = none) :
    executeQueryTool b t stores (routed text decision) =
      { routed text decision with
        executionError := some ("Unknown source: " ++ b.str (sourceField decision))
        success := some false
        responseText := some ("Unknown data source: " ++ b.str (sourceField decision)) } := by
  unfold executeQueryTool
  simp only [routed, Option.getD_some, named]
  rfl

variable (b t stores) in
theorem execute_known (text : String) {decision : Dict} {source : QuerySource}
    (named : sourceOf (sourceField decision) = some source) :
    executeQueryTool b t stores (routed text decision) =
      match paramsOf ((paramsField decision).or (.obj [])) >>= sourceHandler b t stores source with
      | .ok typedResult =>
          { routed text decision with rawTypedResult := some typedResult, success := some true }
      | .error e =>
          { routed text decision with
            executionError := some e.text
            success := some false
            responseText := some ("Query failed: " ++ e.text) } := by
  unfold executeQueryTool
  simp only [routed, Option.getD_some, named]
  rfl

variable (b t stores random) in
theorem answered_object (text : String) (decision : Dict) :
    (∃ source response, sourceField decision = .str (QuerySource.value source) ∧
      (answered b t stores random (routed text decision)).success = some true ∧
      (answered b t stores random (routed text decision)).responseText = some response ∧
      FromSource b t stores random source response) ∨
    ∃ response, (answered b t stores random (routed text decision)).success = some false ∧
      (answered b t stores random (routed text decision)).responseText = some response ∧
      NoAnswer b response := by
  cases named : sourceOf (sourceField decision) with
  | none =>
      right
      have final := execute_unknown b t stores text named
      rw [answered, final, spoken rfl (by decide)]
      exact ⟨_, rfl, rfl, .unknownSource _⟩
  | some source =>
      have final := execute_known b t stores text named
      cases handled : paramsOf ((paramsField decision).or (.obj [])) >>=
          sourceHandler b t stores source with
      | error e =>
          right
          rw [handled] at final
          rw [answered, final, spoken rfl (by decide)]
          exact ⟨_, rfl, rfl, .failed e⟩
      | ok result =>
          left
          rw [handled] at final
          rw [answered, final]
          obtain ⟨params, -, returned⟩ := bind_ok.mp handled
          exact ⟨source, _, sourceOf_some named, rfl, rfl, params, result, returned,
            sourceHandler_known returned, rfl⟩

/-- A tool call that is reported as successful shows what its source returned; without one the user
reads the model's own text or why there is no answer. -/
structure Honest (b : Builtins) (t : ObjectTexts) (stores : DataStores) (random : RandomBytes)
    (reply : Except PyExc Reply) (result : AgentResult) : Prop where
  shown : ∀ call ∈ result.toolCalls, call.success = true → ∃ source response,
    call.toolName = "query/" ++ QuerySource.value source ∧ result.response = .str response ∧
      FromSource b t stores random source response
  otherwise : (∀ call ∈ result.toolCalls, call.success = false) →
    (∃ raw, reply = .ok raw ∧ raw.content = result.response) ∨
      ∃ response, result.response = .str response ∧ NoAnswer b response

theorem honest_object {text : String} {decision : Dict} {content : Json} {output : QueryAgentOutput}
    (ok : queryOutput (answered b t stores random (routed text decision)) = .ok output) :
    Honest b t stores random (.ok ⟨content, some (.obj decision)⟩) (queryResult output) := by
  obtain ⟨selected, named, ok⟩ := bind_ok.mp ok
  obtain ⟨queryType, -, ok⟩ := bind_ok.mp ok
  cases ok
  rw [(answered_keeps b t stores random (routed text decision)).1] at named
  rcases answered_object b t stores random text decision with
    ⟨source, response, field, success, shows, from_source⟩ | ⟨response, success, shows, none⟩
  · have chosen : selected = QuerySource.value source := by
      simp only [routed, Option.getD_some, field, Json.str_or_empty] at named
      exact (Except.ok.inj named).symm
    have some_name : selected ≠ "" := by
      rw [chosen]
      cases source <;> decide
    rw [shows, success]
    refine ⟨fun call mem _ => ?_, fun none => ?_⟩
    · simp only [queryResult, if_neg some_name, List.mem_singleton] at mem
      exact ⟨source, response, by rw [mem, chosen], rfl, from_source⟩
    · simp [queryResult, some_name] at none
  · rw [shows, success]
    refine ⟨fun call mem succeeded => ?_, fun _ => .inr ⟨response, rfl, none⟩⟩
    simp only [queryResult, Option.getD_some] at mem
    split at mem
    · cases mem
    · rw [List.mem_singleton.mp mem] at succeeded
      cases succeeded

theorem honest_text {text raw : String} {output : QueryAgentOutput}
    (ok : queryOutput (answered b t stores random
      { userMessage := text, selectedSource := some (.str ""), sourceParams := some (.obj []),
        queryType := some (.str ""), responseText := some raw, success := some true }) = .ok output) :
    Honest b t stores random (.ok ⟨.str raw, none⟩) (queryResult output) := by
  by_cases empty : raw = ""
  · subst empty
    cases ok
    exact ⟨fun call mem => (List.not_mem_nil mem).elim, fun _ => .inr ⟨_, rfl, .unknownSource (.str "")⟩⟩
  · have spoke : (raw != "") = true := bne_iff_ne.mpr empty
    have skipped (s : Model.QueryAgent.InternalState) (silent : s.selectedSource = some (.str ""))
        (said : s.responseText = some raw) : answered b t stores random s = s := by
      have responded : s.responded = true := by
        rw [InternalState.responded, said]
        exact spoke
      have unexecuted : executeQueryTool b t stores s = s := by
        simp [executeQueryTool, responded, silent, Json.truthy]
      rw [answered, unexecuted]
      exact if_pos responded
    rw [skipped _ rfl rfl] at ok
    cases ok
    exact ⟨fun call mem => (List.not_mem_nil mem).elim, fun _ => .inl ⟨_, rfl, rfl⟩⟩

/-- Whatever the model replies, the query agent shows stored data or says that there are none. -/
theorem query_honest (b : Builtins) (t : ObjectTexts) (stores : DataStores) (random : RandomBytes)
    (reply : Except PyExc Reply) (state : AgentView) {result : AgentResult}
    (ok : runQueryAgent b t stores random reply state = .ok result) :
    Honest b t stores random reply result := by
  obtain ⟨text, -, ok⟩ := bind_ok.mp ok
  obtain ⟨⟨content, parsed⟩, replied, ok⟩ := bind_ok.mp ok
  obtain ⟨output, ran, ok⟩ := bind_ok.mp ok
  cases ok
  subst replied
  obtain ⟨s, routes, ran⟩ := bind_ok.mp ran
  cases content with
  | str raw =>
      cases parsed with
      | none =>
          cases routes
          exact honest_text ran
      | some decision =>
          cases decision with
          | obj decision =>
              cases routes
              exact honest_object ran
          | _ => cases routes
  | _ => cases routes

end

theorem other_reply_honest : ∃ result, result.response = .str (formatTranscript
      (transcriptOf mockTranscripts "u2")) ∧
    Honest .ascii mockWorld.objects mockStores (fun _ => 0)
      (Loads.reply otherText (.value (.obj otherReply))) result := by
  have ok : runQueryAgent .ascii mockWorld.objects mockStores (fun _ => 0)
      (Loads.reply otherText (.value (.obj otherReply)))
      (studentView "u1" "session-1" "my grades" [] none) =
    .ok ⟨.str (formatTranscript (transcriptOf mockTranscripts "u2")),
      [⟨"query/canvas", [], .json .null, true, none⟩]⟩ := rfl
  exact ⟨_, rfl, query_honest _ _ _ _ _ _ ok⟩

end RealityAI.Proof.Answers
