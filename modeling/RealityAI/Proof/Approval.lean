import RealityAI.Proof.Orchestrator

namespace RealityAI.Proof.Approval
open Library Python Model.Safety Model.Orchestrator InnerSafety Orchestrator

def approvalStep (approval : Option Nat) : ThreadEvent → Option Nat
  | .message => none
  | .resumed k decision => if approves decision = .ok true then some k else none
  | _ => approval

def approvedBy (log : List ThreadEvent) : Option Nat := log.foldl approvalStep none

theorem approvedBy_append (log es : List ThreadEvent) :
    approvedBy (log ++ es) = es.foldl approvalStep (approvedBy log) := List.foldl_append

def ApprovalsKept (log : List ThreadEvent) : Prop :=
  ∀ before n after, log = before ++ .ran .execution n :: after →
    ∀ k, approvedBy before = some k → n = k

/-- An approval is delivered while its message is the last one of the thread. -/
def Timely (t : Thread) : Command → Prop
  | .resume madeFor w =>
      t.position = .at .hitlApproval → approves w.decision = .ok true →
        madeFor = t.state.messages.length
  | _ => True

section
variable (rt : Runtime) (w : NodeWorld) (s : AgentState)

theorem runNode_messages {s' : AgentState} {node : Node} (ok : runNode rt w s node = .ok s') :
    s'.messages = s.messages := by
  cases node with
  | intentClassification =>
      obtain ⟨_, -, ok⟩ := bind_ok.mp ok
      obtain ⟨_, -, ok⟩ := bind_ok.mp ok
      obtain ⟨_, -, ok⟩ := bind_ok.mp ok
      cases ok
      rfl
  | agentRouting =>
      change routeToAgent s = .ok s' at ok
      unfold routeToAgent at ok
      split at ok
      · cases ok
        rfl
      · split at ok <;> cases ok
        rfl
  | outerSafetyCheck =>
      obtain ⟨_, -, ok⟩ := bind_ok.mp ok
      cases ok
      rfl
  | corefResolver =>
      change corefResolverNode w.coref s = .ok s' at ok
      unfold corefResolverNode at ok
      split at ok
      · cases ok
        rfl
      · obtain ⟨_, -, ok⟩ := bind_ok.mp ok
        split at ok <;> cases ok <;> rfl
  | hitlApproval =>
      obtain ⟨approved, -, ok⟩ := bind_ok.mp ok
      cases approved <;> cases ok <;> rfl
  | rejectNode =>
      cases ok
      rfl
  | execution =>
      change executeAgent rt w.agents s = .ok s' at ok
      unfold executeAgent at ok
      dsimp only at ok
      split_ifs at ok <;>
        · obtain ⟨_, -, ok⟩ := bind_ok.mp ok
          cases ok
          rfl
  | responseGeneration =>
      cases ok
      rfl
  | outputFilter =>
      change outputFilterNode rt s = .ok s' at ok
      unfold outputFilterNode at ok
      split at ok <;> cases ok <;> rfl

theorem runAt_messages (node : Node) :
    (runAt rt w s node).1.state.messages = s.messages := by
  rcases runAt_cases rt w s node with ⟨e, -, run⟩ | ⟨s', next, ok, -, run⟩ | ⟨s', ok, -, run⟩
  · rw [run]
  · rw [run]
    exact runNode_messages rt w s ok
  · rw [run]
    exact runNode_messages rt w s ok

theorem runAt_approval (node : Node) (approval : Option Nat) :
    (runAt rt w s node).2.foldl approvalStep approval = approval := by
  rcases runAt_cases rt w s node with ⟨e, -, run⟩ | ⟨s', next, -, -, run⟩ | ⟨s', -, -, run⟩
  · rw [run]
    rfl
  · rw [run]
    unfold verdictEvents
    split
    · cases s'.outerSafetyResult <;> rfl
    · rfl
  · rw [run]
    rfl

def Current (log : List ThreadEvent) (t : Thread) : Prop :=
  ∀ k, approvedBy log = some k → t.state.messages.length = k

theorem takeCommand_current (log : List ThreadEvent) (t : Thread) (c : Command)
    (timely : Timely t c) (current : Current log t) :
    Current (log ++ (takeCommand rt t c).2) (takeCommand rt t c).1 := by
  rcases takeCommand_cases rt t c with
    ignored | ⟨input, -, fresh⟩ | ⟨k, w, rfl, paused, resumed⟩ | ⟨w, node, -, -, -, moved⟩
  · rwa [ignored, List.append_nil]
  · -- a fresh message withdraws the approval
    intro k approved
    rw [fresh, approvedBy_append] at approved
    cases approved
  · intro k' approved
    rw [resumed, approvedBy_append, List.foldl_cons, runAt_approval] at approved
    rw [resumed, runAt_messages]
    by_cases approve : approves w.decision = .ok true
    · rw [approvalStep, if_pos approve] at approved
      rw [← timely paused approve]
      exact Option.some.inj approved
    · rw [approvalStep, if_neg approve] at approved
      cases approved
  · intro k approved
    rw [moved, approvedBy_append, runAt_approval] at approved
    rw [moved, runAt_messages]
    exact current k approved

def Kept (log : List ThreadEvent) : ThreadEvent → Prop
  | .ran .execution n => ∀ k, approvedBy log = some k → n = k
  | _ => True

theorem runAt_kept {log : List ThreadEvent} {node : Node} (current : Current log ⟨s, .at node⟩) :
    Machine.Each Kept log (runAt rt w s node).2 := by
  have first : Kept log (.ran node s.messages.length) := by
    cases node with
    | execution => exact current
    | _ => trivial
  exact runAt_each rt w s first (fun _ _ => trivial) fun _ _ => trivial

theorem takeCommand_kept (log : List ThreadEvent) (t : Thread) (c : Command)
    (current : Current log t) : Machine.Each Kept log (takeCommand rt t c).2 := by
  rcases takeCommand_cases rt t c with
    ignored | ⟨input, -, fresh⟩ | ⟨k, w, -, paused, resumed⟩ | ⟨w, node, -, here, moves, moved⟩
  · rw [ignored]
    trivial
  · rw [fresh]
    exact ⟨trivial, trivial⟩
  · rw [resumed, hitlApproval_log]
    exact ⟨trivial, trivial, trivial⟩
  · rw [moved]
    exact runAt_kept rt w t.state current

/-- While every approval is timely, an approved request is the one that is executed. -/
theorem timely_approvals_kept (commands : List Command)
    (timely : (thread rt).Along Timely ⟨s, .idle⟩ commands) :
    ApprovalsKept ((thread rt).run ⟨s, .idle⟩ commands).2 := by
  have start : Current [] ⟨s, .idle⟩ := fun k approved => by cases approved
  have kept : Machine.Each Kept [] ((thread rt).run ⟨s, .idle⟩ commands).2 :=
    Machine.run_emits (takeCommand_current rt)
      (fun log t c _ current => takeCommand_kept rt log t c current) timely start
  intro before n after split
  rw [split] at kept
  exact kept.split

end

/-! The reviewer sees the card of the first request, and approves after the second has come. -/

def staleApproval : List Command :=
  turn "Drop CS101" :: toPause ++ turn "Drop all my courses" :: toPause ++
    .resume 1 reviewedWorld :: .replicate 2 (.advance reviewedWorld)

def beforeStaleExecution : List ThreadEvent :=
  [.message, .ran .intentClassification 1, .ran .agentRouting 1, .ran .outerSafetyCheck 1,
    .judged .flagForReview, .message, .ran .intentClassification 2, .ran .agentRouting 2,
    .ran .outerSafetyCheck 2, .judged .flagForReview, .resumed 1 reviewedWorld.decision,
    .ran .hitlApproval 2, .ran .corefResolver 2]

theorem stale_approval_runs_other :
    ¬ ApprovalsKept ((thread .ascii).run ⟨{}, .idle⟩ staleApproval).2 := by
  intro kept
  have same : 2 = 1 := kept beforeStaleExecution 2 [] rfl 1 rfl
  cases same

theorem approved_message_kept :
    ApprovalsKept ((thread .ascii).run ⟨{}, .idle⟩
      (turn "Drop all my courses" :: toPause ++ approveAndFinish 1)).2 :=
  timely_approvals_kept .ascii {} (turn "Drop all my courses" :: toPause ++ approveAndFinish 1)
    ⟨trivial, trivial, trivial, trivial, fun _ _ => rfl, trivial, trivial, trivial, trivial,
      trivial⟩

end RealityAI.Proof.Approval
