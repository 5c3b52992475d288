import RealityAI.Model.Chat
import RealityAI.Proof.Front
import RealityAI.Proof.Orchestrator

namespace RealityAI.Proof.Chat
open Library Python Model.Safety Model.State Model.ActionAgent Model.Orchestrator Model.Gateway
open Model.OuterTiers Model.Chat

section
variable (w : ChatWorld)

/-- After `n` advances the thread does not move any more. -/
def Settles (n : Nat) (t t' : Thread) (log : List ThreadEvent) : Prop :=
  ∀ k, (thread w.rt).run t (List.replicate (n + k) (.advance w.nodeWorld)) = (t', log)

structure Ends (x : Eff PyExc Event AgentState) (t : Thread) (log : List ThreadEvent) : Prop where
  outcome : match t.position with
    | .idle => x.out = .ok t.state ∧ .delivered (t.state.response.getD .null) ∈ log
    | .at .hitlApproval => x.out = w.interrupted.map fun _ => t.state
    | .failed => ∃ e, x.out = .error e
    | .at _ => False
  acted : x.log ≠ [] → ∃ number, .ran .execution number ∈ log

def Simulated (n : Nat) (t : Thread) (x : Eff PyExc Event AgentState) : Prop :=
  ∃ t' log, Settles w n t t' log ∧ Ends w x t' log

variable {w} {n : Nat} {t t' : Thread} {s : AgentState} {log : List ThreadEvent}

theorem Settles.mono {m : Nat} (settles : Settles w n t t' log) (le : n ≤ m) :
    Settles w m t t' log := by
  intro k
  have later := settles (m - n + k)
  rwa [show n + (m - n + k) = m + k by omega] at later

theorem settles_now (stays : (thread w.rt).step t (.advance w.nodeWorld) = (t, [])) :
    Settles w 0 t t [] := by
  intro k
  rw [Nat.zero_add]
  induction k with
  | zero => rfl
  | succ k ih =>
      simp only [List.replicate_succ, Machine.run, stays, ih, List.nil_append]

theorem settles_step {node : Node} (moves : node ≠ .hitlApproval)
    (rest : Settles w n (runAt w.rt w.nodeWorld s node).1 t' log) :
    Settles w (n + 1) ⟨s, .at node⟩ t' ((runAt w.rt w.nodeWorld s node).2 ++ log) := by
  intro k
  have step : (thread w.rt).step ⟨s, .at node⟩ (.advance w.nodeWorld) =
      runAt w.rt w.nodeWorld s node := by
    cases node with
    | hitlApproval => exact absurd rfl moves
    | _ => rfl
  rw [show n + 1 + k = (n + k) + 1 by omega]
  simp only [List.replicate_succ, Machine.run, step, rest k]

theorem Simulated.mono {m : Nat} {x : Eff PyExc Event AgentState} (sim : Simulated w n t x)
    (le : n ≤ m) : Simulated w m t x := by
  obtain ⟨t', log, settles, ends⟩ := sim
  exact ⟨t', log, settles.mono le, ends⟩

theorem simulated_bind {node : Node} {f : AgentState → Eff PyExc Event AgentState}
    (moves : node ≠ .hitlApproval)
    (rest : ∀ s', runNode w.rt w.nodeWorld s node = .ok s' →
      ∃ next, nextNode s' node = some next ∧ Simulated w n ⟨s', .at next⟩ (f s')) :
    Simulated w (n + 1) ⟨s, .at node⟩ (w.node node s >>= f) := by
  cases ran : runNode w.rt w.nodeWorld s node with
  | error e =>
      have out : (w.node node s).out = .error e := ran
      have stopped : runAt w.rt w.nodeWorld s node =
          (⟨s, .failed⟩, [.ran node s.messages.length]) := by
        unfold runAt
        rw [ran]
        simp [moves]
      refine ⟨⟨s, .failed⟩, [.ran node s.messages.length], ?_, ?_, ?_⟩
      · have settled : Settles w n (runAt w.rt w.nodeWorld s node).1 ⟨s, .failed⟩ [] := by
          rw [stopped]
          exact (settles_now rfl).mono (Nat.zero_le n)
        have all := settles_step moves settled
        rwa [stopped] at all
      · exact ⟨e, by rw [Eff.bind_error out]⟩
      · intro acts
        rw [Eff.bind_error out] at acts
        refine ⟨s.messages.length, ?_⟩
        by_cases executes : node = .execution
        · rw [executes]
          exact List.mem_cons_self
        · exact absurd (if_neg executes) acts
  | ok s' =>
      obtain ⟨next, edge, t', log, settles, ends⟩ := rest s' ran
      have out : (w.node node s).out = .ok s' := ran
      have moved : runAt w.rt w.nodeWorld s node =
          (⟨s', .at next⟩, .ran node s.messages.length :: verdictEvents node s') := by
        unfold runAt
        rw [ran]
        dsimp only
        rw [edge]
      refine ⟨t', _, settles_step moves (by rwa [moved]), ?_, ?_⟩
      · rw [Eff.bind_ok out]
        have outcome := ends.outcome
        cases position : t'.position with
        | idle =>
            rw [position] at outcome
            exact ⟨outcome.1, List.mem_append_right _ outcome.2⟩
        | failed =>
            rw [position] at outcome
            exact outcome
        | «at» other =>
            rw [position] at outcome
            cases other with
            | hitlApproval => exact outcome
            | _ => exact outcome.elim
      · intro acts
        rw [Eff.bind_ok out] at acts
        by_cases executes : node = .execution
        · subst executes
          rw [moved]
          exact ⟨s.messages.length, by simp⟩
        · have quiet : (w.node node s).log = [] := if_neg executes
          rw [quiet, List.nil_append] at acts
          obtain ⟨number, mem⟩ := ends.acted acts
          exact ⟨number, List.mem_append_right _ mem⟩

theorem settles_last {node : Node} (moves : node ≠ .hitlApproval)
    (ended : runAt w.rt w.nodeWorld s node = (t', log))
    (stands : t'.position = .idle ∨ t'.position = .failed) :
    Settles w 1 ⟨s, .at node⟩ t' log := by
  have stays : (thread w.rt).step t' (.advance w.nodeWorld) = (t', []) := by
    cases t' with
    | mk s' position =>
        rcases stands with rfl | rfl
        · rfl
        · rfl
  have rest : Settles w 0 (runAt w.rt w.nodeWorld s node).1 t' [] := by
    rw [ended]
    exact settles_now stays
  have all := settles_step moves rest
  rwa [ended, List.append_nil] at all

theorem simulated_outputFilter :
    Simulated w 1 ⟨s, .at .outputFilter⟩ (w.node .outputFilter s) := by
  cases ran : runNode w.rt w.nodeWorld s .outputFilter with
  | error e =>
      have stopped : runAt w.rt w.nodeWorld s .outputFilter =
          (⟨s, .failed⟩, [.ran .outputFilter s.messages.length]) := by
        unfold runAt
        rw [ran]
        rfl
      exact ⟨_, _, settles_last (by decide) stopped (.inr rfl), ⟨e, ran⟩,
        fun acts => absurd rfl acts⟩
  | ok s' =>
      have done : runAt w.rt w.nodeWorld s .outputFilter =
          (⟨s', .idle⟩, [.ran .outputFilter s.messages.length,
            .delivered (s'.response.getD .null)]) := by
        unfold runAt
        rw [ran]
        rfl
      exact ⟨_, _, settles_last (by decide) done (.inl rfl), ⟨ran, by simp⟩,
        fun acts => absurd rfl acts⟩

theorem simulated_finish : Simulated w 2 ⟨s, .at .responseGeneration⟩ (w.finish s) :=
  simulated_bind (by decide) fun _ _ => ⟨.outputFilter, rfl, simulated_outputFilter⟩

theorem simulated_ainvoke : Simulated w 7 ⟨s, .at .intentClassification⟩ (w.ainvoke s) := by
  refine simulated_bind (by decide) fun s₁ _ => ⟨.agentRouting, rfl, ?_⟩
  refine simulated_bind (by decide) fun s₂ _ => ⟨.outerSafetyCheck, rfl, ?_⟩
  refine simulated_bind (by decide) fun s₃ _ => ?_
  cases route : routeAfterOuterSafety s₃ with
  | allow =>
      refine ⟨.corefResolver, by simp only [nextNode, route], ?_⟩
      refine simulated_bind (by decide) fun s₄ _ => ⟨.execution, rfl, ?_⟩
      exact simulated_bind (by decide) fun s₅ _ => ⟨.responseGeneration, rfl, simulated_finish⟩
  | deny =>
      refine ⟨.rejectNode, by simp only [nextNode, route], Simulated.mono ?_ (by decide : 3 ≤ 4)⟩
      exact simulated_bind (by decide) fun s₄ _ => ⟨.responseGeneration, rfl, simulated_finish⟩
  | flagForReview =>
      refine ⟨.hitlApproval, by simp only [nextNode, route], Simulated.mono ?_ (Nat.zero_le 4)⟩
      refine ⟨_, _, settles_now rfl, ?_, ?_⟩
      · show (Eff.lift w.interrupted >>= fun _ => pure s₃ : Eff PyExc Event AgentState).out = _
        cases w.interrupted <;> rfl
      · intro acts
        apply absurd _ acts
        show (Eff.lift w.interrupted >>= fun _ => pure s₃ : Eff PyExc Event AgentState).log = _
        cases w.interrupted <;> rfl

end

def firstMessage (user : TokenData) (request : ChatRequest) : TurnInput where
  message := ⟨.str request.message⟩
  fields _ := { initialState user request with messages := [] }

/-- The graph of the endpoint does what the thread does that gets the message and is then advanced
until it stands still. -/
theorem chat_turn_of_thread (w : ChatWorld) (user : TokenData) (request : ChatRequest) :
    ∃ t log, (∀ k, (thread w.rt).run ⟨{}, .idle⟩
      (.message (firstMessage user request) :: List.replicate (7 + k) (.advance w.nodeWorld)) =
        (t, .message :: log)) ∧
      Ends w (w.ainvoke (initialState user request)) t log := by
  obtain ⟨t, log, settles, ends⟩ := simulated_ainvoke (w := w) (s := initialState user request)
  refine ⟨t, log, fun k => ?_, ends⟩
  have first : (thread w.rt).step ⟨{}, .idle⟩ (.message (firstMessage user request)) =
      (⟨initialState user request, .at .intentClassification⟩, [.message]) := rfl
  simp only [Machine.run, first, settles k]
  rfl

end RealityAI.Proof.Chat
