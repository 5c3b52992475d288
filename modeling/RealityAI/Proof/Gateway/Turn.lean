import RealityAI.Model.Gateway

namespace RealityAI.Proof.Gateway
open Library Python Model.Gateway

def answerOf : Position → Option Answer
  | .ready => none
  | .push _ _ answer | .put _ _ _ answer | .finished answer => some answer

def unsent : Position → List SseEvent
  | .ready | .finished _ => []
  | .push p later _ => p.event :: later.map Push.event
  | .put _ event later _ => event :: later.map Push.event

theorem answerOf_next (answer : Answer) (later : List Push) :
    answerOf (next answer later) = some answer := by
  cases later <;> rfl

theorem unsent_next (answer : Answer) (later : List Push) :
    unsent (next answer later) = later.map Push.event := by
  cases later <;> rfl

def statusOf (g : ServerState) (requestId : String) : Option String :=
  (g.requests requestId).map ApprovalRequest.status

section
variable (decode : Decode) (ids : FreshIds) (g : ServerState) (c : Coroutine)

structure Decides (call : ApprovalCall) (user : TokenData) (request : ApprovalRequest) : Prop where
  invocation : c.invocation = .approval call
  ready : c.position = .ready
  token : verifyToken decode call.token = .ok user
  action : call.body.action = "approve" ∨ call.body.action = "reject"
  found : g.requests call.requestId = some request
  pending : request.status = "pending"

structure Quiet (out : ServerState × Position × Option SseEvent) : Prop where
  requests : out.1.requests = g.requests
  drawn : out.1.drawn = g.drawn
  answer : ∀ response, answerOf out.2.1 = some (.approval (.ok response)) ↔
    answerOf c.position = some (.approval (.ok response))
  events : ∀ e, e ∈ unsent out.2.1 ∨ out.2.2 = some e →
    e ∈ unsent c.position ∨ e.eventType ≠ "approval_result"

def resolved (request : ApprovalRequest) (call : ApprovalCall) : ApprovalRequest :=
  { request with status := call.body.action }

def resolvedState (request : ApprovalRequest) (call : ApprovalCall) : ServerState :=
  { g with requests := Function.update g.requests call.requestId (some (resolved request call)) }

def resolvedPosition (request : ApprovalRequest) (call : ApprovalCall) (user : TokenData) :
    Position :=
  .push ⟨request.userId, resultEvent call user⟩ [⟨request.instructorId, resultEvent call user⟩]
    (.approval (.ok (approvalResponse call user)))

/-- A turn keeps the requests, decides one that is pending, or creates one. -/
inductive Turn : ServerState × Position × Option SseEvent → Prop
  | quiet {out : ServerState × Position × Option SseEvent} : Quiet g c out → Turn out
  | decides {call : ApprovalCall} {user : TokenData} {request : ApprovalRequest} :
      Decides decode g c call user request →
      Turn (resolvedState g request call, resolvedPosition request call user, none)
  | creates {request : ApprovalRequest} {position : Position} :
      c.position = .ready → request.status = "pending" →
      request.requestId = ids.uuid4 g.drawn →
      answerOf position = some (.created request.requestId) →
      (∀ e ∈ unsent position, e.eventType ≠ "approval_result") →
      Turn ({ g with
          requests := Function.update g.requests request.requestId (some request)
          drawn := g.drawn + 1 }, position, none)

variable {decode ids g c}

theorem refuse_quiet (ready : c.position = .ready) (statusCode : Nat) (detail : String) :
    Quiet g c ((refuse g statusCode detail).1, (refuse g statusCode detail).2, none) where
  requests := rfl
  drawn := rfl
  answer response := by
    rw [ready]
    simp [refuse, answerOf]
  events e mem := by simp [refuse, unsent] at mem

theorem handleApproval_turn {call : ApprovalCall} {user : TokenData}
    (invocation : c.invocation = .approval call) (ready : c.position = .ready)
    (token : verifyToken decode call.token = .ok user) :
    Turn decode ids g c ((handleApproval g user call).1, (handleApproval g user call).2, none) := by
  unfold handleApproval
  dsimp only
  split
  · exact .quiet (refuse_quiet ready _ _)
  rename_i action
  split
  · exact .quiet (refuse_quiet ready _ _)
  rename_i request found
  split
  · exact .quiet (refuse_quiet ready _ _)
  rename_i pending
  rw [not_and_or, not_not, not_not] at action
  have decides : Decides decode g c call user request :=
    ⟨invocation, ready, token, action, found, not_not.mp pending⟩
  exact .decides decides

variable (decode ids g c) in
theorem turn_cases : Turn decode ids g c (turn decode ids g c) := by
  unfold turn
  cases position : c.position with
  | ready =>
      cases invocation : c.invocation with
      | approval call =>
          cases token : verifyToken decode call.token with
          | error e =>
              simp only [begin, token]
              exact .quiet (refuse_quiet position _ _)
          | ok user =>
              simp only [begin, token]
              exact handleApproval_turn invocation position token
      | create userId instructorId context =>
          let request : ApprovalRequest :=
            ⟨ids.uuid4 g.drawn, userId, instructorId, context, "pending"⟩
          refine @Turn.creates decode ids g c request _ position rfl rfl (answerOf_next _ _) ?_
          simp [unsent_next]
      | push p =>
          refine .quiet ⟨rfl, rfl, fun response => ?_, fun e mem => ?_⟩
          · rw [position]
            simp [begin, next, answerOf]
          · simp only [begin, next, unsent, List.map_nil, List.mem_singleton, reduceCtorEq,
              or_false] at mem
            exact .inr (mem ▸ p.other)
  | push p later answer =>
      dsimp only
      cases connected : g.connections p.userId with
      | some queue =>
          refine .quiet ⟨rfl, rfl, fun response => ?_, fun e mem => ?_⟩
          · rw [position]
            exact Iff.rfl
          · rw [position]
            exact .inl (by simpa [unsent] using mem)
      | none =>
          refine .quiet ⟨rfl, rfl, fun response => ?_, fun e mem => ?_⟩
          · rw [position, answerOf_next]
            exact Iff.rfl
          · rw [position]
            simp only [unsent_next, reduceCtorEq, or_false] at mem
            exact .inl (List.mem_cons_of_mem _ mem)
  | put queue event later answer =>
      refine .quiet ⟨rfl, rfl, fun response => ?_, fun e mem => ?_⟩
      · rw [position, answerOf_next]
        exact Iff.rfl
      · rw [position]
        simp only [unsent_next, Option.some.injEq] at mem
        rcases mem with mem | same
        · exact .inl (List.mem_cons_of_mem _ mem)
        · exact .inl (same ▸ List.mem_cons_self)
  | finished answer =>
      refine .quiet ⟨rfl, rfl, fun response => ?_, fun e mem => ?_⟩
      · rw [position]
      · simp [unsent] at mem

end

end RealityAI.Proof.Gateway
