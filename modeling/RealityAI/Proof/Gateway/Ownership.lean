import RealityAI.Proof.Gateway.Resolution

namespace RealityAI.Proof.Gateway
open Library Python Model.Gateway

section
variable (decode : Decode) (ids : FreshIds)

/-- Every change of a pending status is made by a call of the request's instructor. -/
def OnlyInstructorResolves (cs : List Command) : Prop :=
  ∀ before command, before ++ [command] <+: cs → ∀ requestId request request',
    let g := ((gateway decode ids).run .empty before).1
    g.requests requestId = some request → request.status = "pending" →
    (takeCommand decode ids g command).1.requests requestId = some request' →
    request'.status ≠ "pending" →
    ∃ i call user, command = .resume i ∧ g.coroutines[i]? = some ⟨.approval call, .ready⟩ ∧
      call.requestId = requestId ∧ verifyToken decode call.token = .ok user ∧
      user.userId = request.instructorId

/-- If the command runs a call that decides a pending request, its user is the instructor. -/
def ByInstructor (g : ServerState) (command : Command) : Prop :=
  ∀ i c call user request, command = .resume i → g.coroutines[i]? = some c →
    Decides decode g c call user request → user.userId = request.instructorId

end

section
variable {decode : Decode} {ids : FreshIds} {log : List SseEvent} {g : ServerState} {i : Nat}
  {c : Coroutine}

theorem Decides.coroutine {call : ApprovalCall} {user : TokenData} {request : ApprovalRequest}
    (decides : Decides decode g c call user request) : c = ⟨.approval call, .ready⟩ := by
  rw [← decides.invocation, ← decides.ready]

theorem resolving_decides (inv : Consistent ids log g) {command : Command} {requestId : String}
    {request request' : ApprovalRequest} (found : g.requests requestId = some request)
    (pending : request.status = "pending")
    (after : (takeCommand decode ids g command).1.requests requestId = some request')
    (final : request'.status ≠ "pending") :
    ∃ i c call user, command = .resume i ∧ g.coroutines[i]? = some c ∧
      call.requestId = requestId ∧ Decides decode g c call user request := by
  have kept {g' : ServerState} (same : g'.requests = g.requests)
      (after : g'.requests requestId = some request') : False := by
    rw [same, found] at after
    exact final (Option.some.inj after ▸ pending)
  cases command with
  | arrive invocation => exact (kept rfl after).elim
  | connect userId => exact (kept (getConnection_same userId).1 after).elim
  | disconnect userId => exact (kept rfl after).elim
  | read queue => exact (kept rfl after).elim
  | resume i =>
      cases here : g.coroutines[i]? with
      | none =>
          rw [takeCommand_lost here] at after
          exact (kept rfl after).elim
      | some c =>
          rw [takeCommand_resume here] at after
          have cases := turn_cases decode ids g c
          generalize turn decode ids g c = out at cases after
          cases cases with
          | quiet quiet => exact (kept quiet.requests after).elim
          | @decides call user request₁ decides =>
              have same : requestId = call.requestId := by
                by_contra other
                have untouched : Function.update g.requests call.requestId _ requestId =
                  some request' := after
                rw [Function.update_of_ne other, found] at untouched
                exact final (Option.some.inj untouched ▸ pending)
              subst same
              obtain rfl : request = request₁ := Option.some.inj (found.symm.trans decides.found)
              exact ⟨i, c, call, user, rfl, here, rfl, decides⟩
          | @creates request₁ _ _ _ drawn =>
              have other : requestId ≠ request₁.requestId := by
                intro same
                have unknown := inv.unknown drawn
                rw [← same, statusOf, found] at unknown
                cases unknown
              have untouched : Function.update g.requests request₁.requestId _ requestId =
                some request' := after
              rw [Function.update_of_ne other, found] at untouched
              exact (final (Option.some.inj untouched ▸ pending)).elim

theorem deciding_resolves {call : ApprovalCall} {user : TokenData} {request : ApprovalRequest}
    (here : g.coroutines[i]? = some c) (decides : Decides decode g c call user request) :
    (takeCommand decode ids g (.resume i)).1.requests call.requestId =
      some (resolved request call) := by
  have action : ¬ (call.body.action ≠ "approve" ∧ call.body.action ≠ "reject") := by
    rw [not_and_or, not_not, not_not]
    exact decides.action
  have made : turn decode ids g c =
      (resolvedState g request call, resolvedPosition request call user, none) := by
    simp only [turn, decides.ready, decides.invocation, begin, decides.token]
    unfold handleApproval
    dsimp only
    rw [if_neg action, decides.found]
    dsimp only
    rw [if_neg (not_not.mpr decides.pending)]
    rfl
  rw [takeCommand_resume here, made]
  show Function.update g.requests call.requestId (some (resolved request call)) call.requestId = _
  exact Function.update_self _ _ _

end

/-- Approvals are only resolved by their instructors in exactly the runs in which nobody else sends
a decision for a pending request. -/
theorem only_instructor_resolves_iff (decode : Decode) (ids : FreshIds) (cs : List Command) :
    OnlyInstructorResolves decode ids cs ↔
      (gateway decode ids).Along (ByInstructor decode) .empty cs := by
  rw [Machine.along_iff]
  have everywhere (before : List Command) :
      Consistent ids ((gateway decode ids).run .empty before).2
        ((gateway decode ids).run .empty before).1 := run_consistent decode ids before
  constructor
  · intro only before command start i c call user request same here decides
    subst same
    obtain ⟨i', call', user', same, here', -, token, instructor⟩ :=
      only before (.resume i) start call.requestId request (resolved request call) decides.found
        decides.pending (deciding_resolves here decides) decides.final
    cases same
    rw [here, decides.coroutine] at here'
    cases here'
    rw [decides.token] at token
    cases token
    exact instructor
  · intro own before command start requestId request request' g found pending after final
    obtain ⟨i, c, call, user, same, here, names, decides⟩ :=
      resolving_decides (everywhere before) found pending after final
    exact ⟨i, call, user, same, decides.coroutine ▸ here, names, decides.token,
      own before command start i c call user request same here decides⟩

/-! A student approves the operation that was flagged for review. -/

def ownCall : ApprovalCall := ⟨"r", ⟨"approve", "mine"⟩, "S001"⟩

theorem student_approves_own : ¬ OnlyInstructorResolves plainTokens countedIds
    (created ++ [.arrive (.approval ownCall), .resume 1]) := by
  intro only
  obtain ⟨i, call, user, same, here, -, token, instructor⟩ :=
    only (created ++ [.arrive (.approval ownCall)]) (.resume 1) ⟨[], rfl⟩ "r"
      ⟨"r", "S001", "instructor_smith", [], "pending"⟩
      ⟨"r", "S001", "instructor_smith", [], "approve"⟩ rfl rfl rfl (by decide)
  cases same
  cases here
  cases token
  exact absurd instructor (by decide)

end RealityAI.Proof.Gateway
