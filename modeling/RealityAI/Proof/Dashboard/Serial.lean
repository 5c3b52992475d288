import RealityAI.Model.Streams
import RealityAI.Proof.Dashboard.Agreement

namespace RealityAI.Proof.Dashboard
open Library Python Model.Gateway Model.Dashboard Proof.Gateway

def pushAll (g : ServerState) (pushes : List Push) : ServerState :=
  pushes.foldl (fun g p => (pushEvent g p).1) g

section
variable {decode : Decode} {ids : FreshIds} {g : ServerState}

theorem pushEvent_same (p : Push) : (pushEvent g p).1.requests = g.requests ∧
    (pushEvent g p).1.connections = g.connections ∧ (pushEvent g p).1.drawn = g.drawn ∧
    (pushEvent g p).1.queues.length = g.queues.length ∧
    (pushEvent g p).1.coroutines = g.coroutines := by
  unfold pushEvent
  cases g.connections p.userId <;> simp

theorem pushAll_same (pushes : List Push) : (pushAll g pushes).requests = g.requests ∧
    (pushAll g pushes).connections = g.connections ∧ (pushAll g pushes).drawn = g.drawn ∧
    (pushAll g pushes).queues.length = g.queues.length := by
  induction pushes generalizing g with
  | nil => exact ⟨rfl, rfl, rfl, rfl⟩
  | cons p later ih =>
      obtain ⟨requests, connections, drawn, queues, -⟩ := pushEvent_same (g := g) p
      obtain ⟨requests', connections', drawn', queues'⟩ := ih (g := (pushEvent g p).1)
      exact ⟨requests'.trans requests, connections'.trans connections, drawn'.trans drawn,
        queues'.trans queues⟩

variable {i : Nat} {invocation : Invocation}

def placed (g : ServerState) (i : Nat) (invocation : Invocation) (position : Position) :
    ServerState :=
  { g with coroutines := g.coroutines.set i ⟨invocation, position⟩ }

variable (decode ids invocation) in
theorem resume_placed (bound : i < g.coroutines.length) (position : Position) :
    (takeCommand decode ids (placed g i invocation position) (.resume i)).1 =
      placed { (turn decode ids (placed g i invocation position) ⟨invocation, position⟩).1 with
          coroutines := g.coroutines } i invocation
        (turn decode ids (placed g i invocation position) ⟨invocation, position⟩).2.1 := by
  rw [takeCommand_resume (List.getElem?_set_self bound)]
  simp [advanced, placed, List.set_set]

theorem run_finished (bound : i < g.coroutines.length) (answer : Answer) (n : Nat) :
    ((gateway decode ids).run (placed g i invocation (.finished answer))
      (List.replicate n (.resume i))).1 = placed g i invocation (.finished answer) := by
  induction n with
  | zero => rfl
  | succ n ih =>
      show ((gateway decode ids).run (takeCommand decode ids _ (.resume i)).1 _).1 = _
      rw [resume_placed decode ids invocation bound]
      exact ih

variable (decode ids invocation) in
theorem run_pushes (bound : i < g.coroutines.length) (answer : Answer) (pushes : List Push)
    (n : Nat) (enough : 2 * pushes.length ≤ n) :
    ((gateway decode ids).run (placed g i invocation (next answer pushes))
      (List.replicate n (.resume i))).1 =
        placed (pushAll g pushes) i invocation (.finished answer) := by
  induction pushes generalizing g n with
  | nil => exact run_finished bound answer n
  | cons p later ih =>
      rw [List.length_cons] at enough
      obtain ⟨m, rfl⟩ : ∃ m, n = m + 2 := ⟨n - 2, by omega⟩
      have pushed : (pushEvent g p).1.coroutines = g.coroutines :=
        (pushEvent_same (g := g) p).2.2.2.2
      have rest (m : Nat) (enough : 2 * later.length ≤ m) := ih (g := (pushEvent g p).1)
        (pushed ▸ bound) m enough
      cases connected : g.connections p.userId with
      | none =>
          have stays : (pushEvent g p).1 = g := by
            unfold pushEvent
            rw [connected]
          show ((gateway decode ids).run (takeCommand decode ids _ (.resume i)).1
            (List.replicate (m + 1) (.resume i))).1 = _
          rw [resume_placed decode ids invocation bound]
          have step : turn decode ids (placed g i invocation (next answer (p :: later)))
              ⟨invocation, next answer (p :: later)⟩ =
              (placed g i invocation (next answer (p :: later)), next answer later, none) := by
            simp [turn, next, placed, connected]
          rw [step]
          have after := rest (m + 1) (by omega)
          rw [stays] at after
          rw [pushAll, List.foldl_cons, stays]
          exact after
      | some queue =>
          show ((gateway decode ids).run (takeCommand decode ids
            (takeCommand decode ids _ (.resume i)).1 (.resume i)).1
              (List.replicate m (.resume i))).1 = _
          have waits : turn decode ids (placed g i invocation (next answer (p :: later)))
              ⟨invocation, next answer (p :: later)⟩ =
              (placed g i invocation (next answer (p :: later)), .put queue p.event later answer,
                none) := by
            simp [turn, next, placed, connected]
          rw [resume_placed decode ids invocation bound, waits]
          show ((gateway decode ids).run (takeCommand decode ids
            (placed g i invocation (.put queue p.event later answer)) (.resume i)).1
              (List.replicate m (.resume i))).1 = _
          rw [resume_placed decode ids invocation bound]
          have puts : (pushEvent g p).1 =
              { g with queues := g.queues.modify queue (· ++ [p.event]) } := by
            unfold pushEvent
            rw [connected]
          have after := rest m (by omega)
          rw [puts] at after
          rw [pushAll, List.foldl_cons, puts]
          exact after

def announcement (request : Model.Gateway.ApprovalRequest) : SseEvent where
  eventType := "approval_request"
  data := [("request_id", .str request.requestId), ("user_id", .str request.userId),
    ("context", .obj request.context)]

/-- The statements of a call before its pushes: what becomes of the requests, and who is told. -/
inductive Begins (ids : FreshIds) (g : ServerState) : ServerState → List Push → Prop
  | quiet {pushes : List Push} : (∀ p ∈ pushes, p.event.eventType ≠ "approval_request" ∧
      p.event.eventType ≠ "approval_result") → Begins ids g g pushes
  | decides {call : ApprovalCall} {user : TokenData} {request : Model.Gateway.ApprovalRequest} :
      g.requests call.requestId = some request → request.status = "pending" →
      call.body.action ≠ "pending" →
      Begins ids g (resolvedState g request call)
        [⟨request.userId, resultEvent call user⟩, ⟨request.instructorId, resultEvent call user⟩]
  | creates {request : Model.Gateway.ApprovalRequest} : request.status = "pending" →
      request.requestId = ids.uuid4 g.drawn →
      Begins ids g (createdState g request) [⟨request.instructorId, announcement request⟩]

theorem handleApproval_begins (user : TokenData) (call : ApprovalCall) :
    ∃ g' answer pushes, handleApproval g user call = (g', next answer pushes) ∧
      pushes.length ≤ 2 ∧ Begins ids g g' pushes := by
  have quiet : Begins ids g g [] := .quiet fun p mem => by cases mem
  unfold handleApproval
  dsimp only
  split
  · exact ⟨_, _, [], rfl, Nat.zero_le _, quiet⟩
  rename_i action
  split
  · exact ⟨_, _, [], rfl, Nat.zero_le _, quiet⟩
  rename_i request found
  split
  · exact ⟨_, _, [], rfl, Nat.zero_le _, quiet⟩
  rename_i pending
  refine ⟨_, _, _, rfl, le_rfl, .decides found (not_not.mp pending) ?_⟩
  intro same
  exact action (by simp [same])

variable (decode ids g) in
theorem begin_begins (regular : Regular invocation) :
    ∃ g' answer pushes, begin decode ids g invocation = (g', next answer pushes) ∧
      pushes.length ≤ 2 ∧ Begins ids g g' pushes := by
  cases invocation with
  | approval call =>
      cases token : verifyToken decode call.token with
      | error refused =>
          simp only [begin, token]
          exact ⟨_, _, [], rfl, Nat.zero_le _, .quiet fun p mem => by cases mem⟩
      | ok user =>
          simp only [begin, token]
          exact handleApproval_begins user call
  | create userId instructorId context =>
      let request : Model.Gateway.ApprovalRequest :=
        ⟨ids.uuid4 g.drawn, userId, instructorId, context, "pending"⟩
      have creates : Begins ids g (createdState g request)
          [⟨request.instructorId, announcement request⟩] := .creates rfl rfl
      exact ⟨_, _, _, rfl, Nat.le_succ 1, creates⟩
  | push p =>
      refine ⟨_, _, [p.toPush], rfl, Nat.le_succ 1, .quiet ?_⟩
      intro push mem
      rw [List.mem_singleton.mp mem]
      exact ⟨regular, p.other⟩

theorem Begins.coroutines {g' : ServerState} {pushes : List Push} (begins : Begins ids g g' pushes) :
    g'.coroutines = g.coroutines := by
  cases begins <;> rfl

def arrived (g : ServerState) (invocation : Invocation) : ServerState :=
  { g with coroutines := g.coroutines ++ [⟨invocation, .ready⟩] }

variable (decode ids g) in
theorem serial_call (regular : Regular invocation) :
    ∃ g' pushes answer, Begins ids (arrived g invocation) g' pushes ∧
      ((serial decode ids).step g (.call invocation)).1 =
        placed (pushAll g' pushes) g.coroutines.length invocation (.finished answer) := by
  obtain ⟨g', answer, pushes, begun, few, begins⟩ :=
    begin_begins decode ids (arrived g invocation) regular
  refine ⟨g', pushes, answer, begins, ?_⟩
  have here : (arrived g invocation).coroutines[g.coroutines.length]? = some ⟨invocation, .ready⟩ :=
    List.getElem?_concat_length
  have first : turn decode ids (arrived g invocation) ⟨invocation, .ready⟩ =
      (g', next answer pushes, none) := by
    simp [turn, begun]
  have bound : g.coroutines.length < g'.coroutines.length :=
    begins.coroutines ▸ (List.getElem?_eq_some_iff.mp here).1
  have after := run_pushes decode ids invocation bound answer pushes 4
    (by omega)
  show ((gateway decode ids).run (takeCommand decode ids (arrived g invocation)
    (.resume g.coroutines.length)).1 (List.replicate 4 (.resume g.coroutines.length))).1 = _
  rw [takeCommand_resume here, first]
  rw [placed, begins.coroutines] at after
  exact after

end

end RealityAI.Proof.Dashboard
