import RealityAI.Model.Orchestrator
import RealityAI.Model.PlanAgent

namespace RealityAI.Proof.Coref
open Python Model.Safety Model.ActionAgent Model.Orchestrator Model.PlanAgent

/-- The reply whose rewrite is used: the gate fires, the call succeeds and the reply is confident. -/
def trusted (coref : Coref) (history : List Message) (content : String) : Option RewrittenQuery :=
  if coref.needsCoref content history then
    match coref.answer with
    | .ok r => if coref.threshold ≤ r.confidence then some r else none
    | .error _ => none
  else none

/-- The trusted rewrite or else the content of the message, and no other text is planned. -/
structure PassesOn (reply : Option RewrittenQuery) (content : Json) (s : AgentState) : Prop where
  normalized : s.userQueryNormalized =
    some (match reply with | some r => .str r.rewrittenQuery | none => content)
  planned : userQuery (agentView s) = .ok content ∨
    ∃ r, reply = some r ∧ userQuery (agentView s) = .ok (.str r.rewrittenQuery)

section
variable {coref : Coref} {s : AgentState} {history : List Message} {content : String}

def effectiveQuery (coref : Coref) (history : List Message) (content : String) : String :=
  if coref.needsCoref content history then
    match coref.answer with
    | .ok r => if coref.threshold ≤ r.confidence then r.rewrittenQuery else r.originalQuery
    | .error _ => content
  else content

def record (coref : Coref) (history : List Message) (content : String) : RewrittenQuery :=
  if coref.needsCoref content history then coref.answer.toOption.getD ⟨content, content, 0⟩
  else ⟨content, content, 1⟩

theorem corefResolverNode_eq (last : Message) (text : last.content = .str content) :
    corefResolverNode coref { s with messages := history ++ [last] } =
      .ok { s with
        messages := history ++ [last]
        rewrittenQuery := some (record coref history content)
        userQueryNormalized := some (.str (effectiveQuery coref history content)) } := by
  unfold corefResolverNode effectiveQuery record
  simp only [List.getLast?_append, List.getLast?_singleton, Option.some_or, List.dropLast_concat, text]
  change (if coref.needsCoref content history then _ else _) = _
  cases coref.needsCoref content history with
  | false => rfl
  | true =>
      cases coref.answer with
      | error e =>
          by_cases low : coref.threshold ≤ 0
          · simp [Except.toOption, low, pure, Except.pure]
          · simp [Except.toOption, low, pure, Except.pure]
      | ok r => rfl

theorem effectiveQuery_eq_iff :
    effectiveQuery coref history content =
        (match trusted coref history content with | some r => r.rewrittenQuery | none => content) ↔
      ∀ r, coref.needsCoref content history = true → coref.answer = .ok r →
        r.confidence < coref.threshold → r.originalQuery = content := by
  unfold effectiveQuery trusted
  cases coref.needsCoref content history with
  | false => simp
  | true =>
      cases coref.answer with
      | error e => simp
      | ok r =>
          by_cases confident : coref.threshold ≤ r.confidence
          · simp [confident, Rat.not_lt.mpr confident]
          · simp [confident, Rat.not_le.mp confident]

theorem userQuery_of_normalized {last : Message} {query : String}
    (messages : s.messages = history ++ [last])
    (normalized : s.userQueryNormalized = some (.str query)) :
    userQuery (agentView s) = .ok (.str query) ∨ userQuery (agentView s) = .ok last.content := by
  unfold userQuery agentView
  simp only [messages, normalized, Option.getD_some, List.getLast?_append, List.getLast?_singleton,
    Option.some_or]
  cases (Json.str query).truthy with
  | true => exact .inl rfl
  | false => exact .inr rfl

theorem passesOn_iff {last : Message} {query : String} {reply : Option RewrittenQuery}
    (text : last.content = .str content) (messages : s.messages = history ++ [last])
    (normalized : s.userQueryNormalized = some (.str query)) :
    PassesOn reply last.content s ↔
      query = match reply with | some r => r.rewrittenQuery | none => content := by
  have planned := userQuery_of_normalized messages normalized
  cases reply with
  | none =>
      constructor
      · intro passed
        have same := normalized.symm.trans passed.normalized
        simpa [text] using same
      · intro same
        rw [same, ← text] at normalized planned
        exact ⟨normalized, .inl (planned.elim id id)⟩
  | some r =>
      constructor
      · intro passed
        have same := normalized.symm.trans passed.normalized
        simpa using same
      · intro same
        rw [same] at normalized planned
        exact ⟨normalized, planned.symm.imp id fun rewritten => ⟨r, rfl, rewritten⟩⟩

end

/-- The resolver passes on the message or a trusted rewrite if and only if the message is a text and
every reply below the threshold returns it as the original. -/
theorem passes_on_iff (coref : Coref) (s : AgentState) (history : List Message) (last : Message) :
    (∃ s' content, last.content = .str content ∧
        corefResolverNode coref { s with messages := history ++ [last] } = .ok s' ∧
        PassesOn (trusted coref history content) last.content s') ↔
      ∃ content, last.content = .str content ∧
        ∀ r, coref.needsCoref content history = true → coref.answer = .ok r →
          r.confidence < coref.threshold → r.originalQuery = content := by
  apply exists_comm.trans
  apply exists_congr
  intro content
  rw [exists_and_left, and_congr_right_iff]
  intro text
  rw [corefResolverNode_eq last text]
  simp only [Except.ok.injEq, exists_eq_left']
  exact (passesOn_iff text rfl rfl).trans effectiveQuery_eq_iff

def question : Message := ⟨.str "Can I take it?"⟩

def unsure : Coref where
  needsCoref _ _ := true
  answer := .ok ⟨"Drop CS101", "Can I take CS102?", 1 / 10⟩
  threshold := 1 / 2

theorem other_request_planned :
    ¬ ∃ s' content, question.content = .str content ∧
      corefResolverNode unsure { messages := [question] ++ [question] } = .ok s' ∧
      PassesOn (trusted unsure [question] content) question.content s' := by
  rintro ⟨s', content, text, ok, passed⟩
  have ran := @corefResolverNode_eq unsure {} [question] content question text
  cases ran.symm.trans ok
  have normalized := passed.normalized
  have low : ¬ unsure.threshold ≤ (1 / 10 : Rat) := by decide +kernel
  have untrusted : trusted unsure [question] content = none := if_neg low
  have dropped : effectiveQuery unsure [question] content = "Drop CS101" := if_neg low
  cases text
  rw [untrusted] at normalized
  have same := dropped.symm.trans (Json.str.inj (Option.some.inj normalized))
  exact absurd same (by decide)

end RealityAI.Proof.Coref
