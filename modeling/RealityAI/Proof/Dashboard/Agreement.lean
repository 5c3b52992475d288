import RealityAI.Model.Dashboard
import RealityAI.Proof.Gateway.Resolution

namespace RealityAI.Proof.Dashboard
open Library Python Model.Gateway Model.Dashboard Proof.Gateway

/-! ## The announcement of a request -/

def Regular : Invocation → Prop
  | .push p => p.event.eventType ≠ "approval_request"
  | _ => True

def RegularCommand : Command → Prop
  | .arrive invocation => Regular invocation
  | _ => True

def Announced (g : ServerState) (e : SseEvent) : Prop :=
  e.eventType = "approval_request" → ∃ requestId request, g.requests requestId = some request ∧
    Dict.get e.data "request_id" = .str requestId ∧
    Dict.get e.data "user_id" = .str request.userId ∧ contextOf e.data = request.context

def Kept (g g' : ServerState) : Prop :=
  ∀ requestId request, g.requests requestId = some request →
    ∃ status, g'.requests requestId = some { request with status }

theorem Kept.of_same {g g' : ServerState} (same : g'.requests = g.requests) : Kept g g' := by
  intro requestId request found
  exact ⟨request.status, by rw [same, found]⟩

theorem Announced.mono {g g' : ServerState} {e : SseEvent} (kept : Kept g g')
    (announced : Announced g e) : Announced g' e := by
  intro type
  obtain ⟨requestId, request, found, names, student, context⟩ := announced type
  obtain ⟨status, found'⟩ := kept requestId request found
  exact ⟨requestId, _, found', names, student, context⟩

theorem announced_other {g : ServerState} {e : SseEvent} (other : e.eventType ≠ "approval_request") :
    Announced g e :=
  fun type => absurd type other

def Answers (c : Coroutine) : Prop :=
  ∀ call, c.invocation = .approval call → ∀ response,
    answerOf c.position = some (.approval (.ok response)) →
      response.requestId = call.requestId ∧ response.status = call.body.action

structure Announces (log : List SseEvent) (g : ServerState) : Prop where
  regular : ∀ c ∈ g.coroutines, Regular c.invocation
  waiting : ∀ c ∈ g.coroutines, ∀ e ∈ unsent c.position, Announced g e
  sent : ∀ e ∈ log, Announced g e
  answers : ∀ c ∈ g.coroutines, Answers c

section
variable {decode : Decode} {ids : FreshIds} {log : List SseEvent} {g : ServerState} {c : Coroutine}
  {i : Nat}

/-! ## One turn -/

theorem turn_kept (inv : Consistent ids log g) : Kept g (turn decode ids g c).1 := by
  have cases := turn_cases decode ids g c
  generalize turn decode ids g c = out at cases
  cases cases with
  | quiet quiet => exact .of_same quiet.requests
  | @decides call user request decides =>
      intro requestId stored found
      show ∃ status, Function.update g.requests call.requestId _ requestId = _
      by_cases same : requestId = call.requestId
      · subst same
        rw [decides.found] at found
        cases found
        exact ⟨call.body.action, Function.update_self ..⟩
      · exact ⟨stored.status, by rw [Function.update_of_ne same, found]⟩
  | @creates request position ready pending drawn =>
      intro requestId stored found
      show ∃ status, Function.update g.requests request.requestId _ requestId = _
      have other : requestId ≠ request.requestId := by
        intro same
        rw [same, drawn, inv.fresh _ le_rfl] at found
        cases found
      exact ⟨stored.status, by rw [Function.update_of_ne other, found]⟩

theorem handleApproval_unsent (user : TokenData) (call : ApprovalCall) :
    ∀ e ∈ unsent (handleApproval g user call).2, e.eventType ≠ "approval_request" := by
  unfold handleApproval
  dsimp only
  split
  · simp [refuse, unsent]
  split
  · simp [refuse, unsent]
  split
  · simp [refuse, unsent]
  · simp [unsent_next, resultEvent]

theorem begin_announces {invocation : Invocation} (regular : Regular invocation) :
    ∀ e ∈ unsent (begin decode ids g invocation).2,
      Announced (begin decode ids g invocation).1 e := by
  intro e mem
  cases invocation with
  | approval call =>
      unfold begin at mem
      cases token : verifyToken decode call.token with
      | error refused => simp [token, refuse, unsent] at mem
      | ok user =>
          simp only [token] at mem
          exact announced_other (handleApproval_unsent user call e mem)
  | create userId instructorId context =>
      simp only [begin, createApprovalRequest, unsent_next, List.map_cons, List.map_nil,
        List.mem_singleton] at mem
      subst mem
      intro _
      exact ⟨ids.uuid4 g.drawn, ⟨ids.uuid4 g.drawn, userId, instructorId, context, "pending"⟩,
        Function.update_self .., rfl, rfl, rfl⟩
  | push p =>
      simp only [begin, unsent_next, List.map_cons, List.map_nil, List.mem_singleton] at mem
      subst mem
      exact announced_other regular

theorem turn_announces (regular : Regular c.invocation) (e : SseEvent)
    (owed : e ∈ unsent (turn decode ids g c).2.1 ∨ (turn decode ids g c).2.2 = some e) :
    e ∈ unsent c.position ∨ Announced (turn decode ids g c).1 e := by
  unfold turn at owed ⊢
  cases position : c.position with
  | ready =>
      simp only [position, reduceCtorEq, or_false] at owed
      exact .inr (begin_announces regular e owed)
  | push p later answer =>
      simp only [position] at owed
      left
      cases connected : g.connections p.userId with
      | some queue => simpa [connected, unsent] using owed
      | none =>
          simp only [connected, unsent_next, reduceCtorEq, or_false] at owed
          exact List.mem_cons_of_mem _ owed
  | put queue event later answer =>
      simp only [position, unsent_next, Option.some.injEq] at owed
      left
      rcases owed with later | sent
      · exact List.mem_cons_of_mem _ later
      · exact sent ▸ List.mem_cons_self
  | finished answer => simp [position, unsent] at owed

theorem handleApproval_answers (user : TokenData) (call : ApprovalCall) :
    Answers ⟨.approval call, (handleApproval g user call).2⟩ := by
  rintro call' same response
  cases same
  unfold handleApproval
  dsimp only
  split
  · simp [refuse, answerOf]
  split
  · simp [refuse, answerOf]
  split
  · simp [refuse, answerOf]
  · rw [answerOf_next]
    intro answered
    cases answered
    exact ⟨rfl, rfl⟩

theorem turn_answers (answers : Answers c) :
    Answers { c with position := (turn decode ids g c).2.1 } := by
  cases answered : answerOf c.position with
  | some answer =>
      intro call invocation response after
      rw [turn_answered answered] at after
      exact answers call invocation response (answered.trans after)
  | none =>
      obtain ready : c.position = .ready := by
        cases position : c.position with
        | ready => rfl
        | _ => simp [position, answerOf] at answered
      intro call (invocation : c.invocation = .approval call) response after
      simp only [turn, ready, begin, invocation] at after
      cases token : verifyToken decode call.token with
      | error refused => simp [token, refuse, answerOf] at after
      | ok user =>
          simp only [token] at after
          exact handleApproval_answers user call call rfl response after

/-! ## Every run -/

theorem forall_arrived {P : Coroutine → Prop} {invocation : Invocation}
    (old : ∀ c ∈ g.coroutines, P c) (new : P ⟨invocation, .ready⟩) :
    ∀ c ∈ g.coroutines ++ [⟨invocation, .ready⟩], P c := by
  intro c mem
  rcases List.mem_append.mp mem with before | arrived
  · exact old c before
  · exact List.mem_singleton.mp arrived ▸ new

theorem forall_advanced {P : Coroutine → Prop} {out : ServerState × Position × Option SseEvent}
    (old : ∀ c ∈ g.coroutines, P c) (new : P { c with position := out.2.1 }) :
    ∀ c' ∈ (advanced g i c out).coroutines, P c' := by
  intro c' mem
  rcases List.mem_or_eq_of_mem_set mem with before | moved
  · exact old c' before
  · exact moved ▸ new

theorem Announces.same {g' : ServerState} (inv : Announces log g)
    (requests : g'.requests = g.requests) (coroutines : g'.coroutines = g.coroutines) :
    Announces log g' where
  regular := coroutines ▸ inv.regular
  waiting c mem e owed := (inv.waiting c (coroutines ▸ mem) e owed).mono (.of_same requests)
  sent e mem := (inv.sent e mem).mono (.of_same requests)
  answers := coroutines ▸ inv.answers

theorem Announces.arrive (inv : Announces log g) {invocation : Invocation}
    (regular : Regular invocation) :
    Announces log { g with coroutines := g.coroutines ++ [⟨invocation, .ready⟩] } := by
  refine ⟨forall_arrived inv.regular regular, forall_arrived inv.waiting ?_, inv.sent,
    forall_arrived inv.answers ?_⟩
  · intro e mem
    cases mem
  · intro call _ response answered
    cases answered

theorem Announces.resume (inv : Announces log g) (consistent : Consistent ids log g)
    (here : g.coroutines[i]? = some c) :
    Announces (log ++ (turn decode ids g c).2.2.toList) (advanced g i c (turn decode ids g c)) := by
  have mem : c ∈ g.coroutines := List.mem_of_getElem? here
  have kept : Kept g (turn decode ids g c).1 := turn_kept consistent
  have owed (e : SseEvent)
      (owes : e ∈ unsent (turn decode ids g c).2.1 ∨ (turn decode ids g c).2.2 = some e) :
      Announced (turn decode ids g c).1 e := by
    rcases turn_announces (inv.regular c mem) e owes with before | announced
    · exact (inv.waiting c mem e before).mono kept
    · exact announced
  refine ⟨forall_advanced inv.regular (inv.regular c mem), forall_advanced ?_ ?_, ?_,
    forall_advanced inv.answers (turn_answers (inv.answers c mem))⟩
  · exact fun c' mem' e waits => (inv.waiting c' mem' e waits).mono kept
  · exact fun e waits => owed e (.inl waits)
  · intro e sent
    rcases List.mem_append.mp sent with before | now
    · exact (inv.sent e before).mono kept
    · exact owed e (.inr (Option.mem_toList.mp now))

theorem takeCommand_announces (inv : Announces log g) (consistent : Consistent ids log g)
    {command : Command} (regular : RegularCommand command) :
    Announces (log ++ (takeCommand decode ids g command).2)
      (takeCommand decode ids g command).1 := by
  cases command with
  | arrive invocation => exact (List.append_nil log).symm ▸ inv.arrive regular
  | connect userId =>
      obtain ⟨requests, -, coroutines⟩ := getConnection_same (g := g) userId
      exact (List.append_nil log).symm ▸ inv.same requests coroutines
  | disconnect userId => exact (List.append_nil log).symm ▸ inv.same rfl rfl
  | read queue => exact (List.append_nil log).symm ▸ inv.same rfl rfl
  | resume i =>
      cases here : g.coroutines[i]? with
      | none =>
          rw [takeCommand_lost here, List.append_nil]
          exact inv
      | some c =>
          rw [takeCommand_resume here]
          exact inv.resume consistent here

variable (decode ids) in
theorem both_kept {log : List SseEvent} {cs : List Command}
    (along : (gateway decode ids).Along (fun _ command => RegularCommand command) g cs)
    (start : Consistent ids log g ∧ Announces log g) :
    Consistent ids (log ++ ((gateway decode ids).run g cs).2) ((gateway decode ids).run g cs).1 ∧
      Announces (log ++ ((gateway decode ids).run g cs).2) ((gateway decode ids).run g cs).1 := by
  have step (log : List SseEvent) (g : ServerState) (c : Command) (regular : RegularCommand c)
      (inv : Consistent ids log g ∧ Announces log g) :
      Consistent ids (log ++ ((gateway decode ids).step g c).2) ((gateway decode ids).step g c).1 ∧
        Announces (log ++ ((gateway decode ids).step g c).2) ((gateway decode ids).step g c).1 :=
    ⟨takeCommand_consistent inv.1 c, takeCommand_announces inv.2 inv.1 regular⟩
  exact Machine.run_logged step along start

variable (decode ids) in
theorem run_announces {cs : List Command} (regular : ∀ command ∈ cs, RegularCommand command) :
    Consistent ids ((gateway decode ids).run .empty cs).2 ((gateway decode ids).run .empty cs).1 ∧
      Announces ((gateway decode ids).run .empty cs).2 ((gateway decode ids).run .empty cs).1 := by
  have empty : Announces [] .empty := by
    constructor <;> intro _ mem <;> cases mem
  have start : Consistent ids [] .empty ∧ Announces [] .empty := ⟨empty_consistent, empty⟩
  exact both_kept decode ids (Machine.along_of_forall regular _) start

end

/-! ## What the pages show -/

/-- What a page can be told of a run: the events that were put, and the answers to calls. -/
def Told (run : ServerState × List SseEvent) : Input → Prop
  | .message event => event ∈ run.2
  | .answer call response => ∃ c ∈ run.1.coroutines,
      c.invocation = .approval call ∧ c.position = .finished (.approval response)

/-- The request of a card as it is stored, with the decision or none yet. -/
def ShowsStored (g : ServerState) (r : Model.Dashboard.ApprovalRequest) : Prop :=
  ∃ request, g.requests r.requestId = some request ∧ r.userId = request.userId ∧
    r.context = request.context ∧ (r.status = "pending" ∨ r.status = request.status)

structure Agrees (g : ServerState) (requests : List Model.Dashboard.ApprovalRequest) : Prop where
  distinct : (requests.map (·.requestId)).Nodup
  stored : ∀ r ∈ requests, ShowsStored g r

theorem resolveRequest_ids (requests : List Model.Dashboard.ApprovalRequest)
    (requestId action : String) :
    (resolveRequest requests requestId action).map (·.requestId) = requests.map (·.requestId) := by
  rw [resolveRequest, List.map_map]
  apply List.map_congr_left
  intro r _
  by_cases same : r.requestId = requestId <;> simp [same]

section
variable {g : ServerState} {requests : List Model.Dashboard.ApprovalRequest}

theorem Agrees.add (agrees : Agrees g requests) {requestId : String}
    {request : Model.Gateway.ApprovalRequest} (found : g.requests requestId = some request) :
    Agrees g (addRequest requests requestId request.userId request.context) := by
  unfold addRequest
  split
  · exact agrees
  · rename_i new
    constructor
    · rw [List.map_cons, List.nodup_cons]
      refine ⟨?_, agrees.distinct⟩
      intro mem
      obtain ⟨r, here, same⟩ := List.mem_map.mp mem
      exact new (List.any_eq_true.mpr ⟨r, here, decide_eq_true same⟩)
    · intro r mem
      rcases List.mem_cons.mp mem with same | old
      · subst same
        exact ⟨request, found, rfl, rfl, .inl rfl⟩
      · exact agrees.stored r old

theorem Agrees.resolve (agrees : Agrees g requests) {requestId action : String}
    (recorded : statusOf g requestId = some action) :
    Agrees g (resolveRequest requests requestId action) := by
  constructor
  · rw [resolveRequest_ids]
    exact agrees.distinct
  · intro r mem
    obtain ⟨old, here, moved⟩ := List.mem_map.mp mem
    obtain ⟨request, found, student, context, status⟩ := agrees.stored old here
    subst moved
    by_cases same : old.requestId = requestId
    · rw [if_pos same]
      refine ⟨request, found, student, context, .inr ?_⟩
      rw [statusOf, ← same, found] at recorded
      exact (Option.some.inj recorded).symm
    · rw [if_neg same]
      exact ⟨request, found, student, context, status⟩

theorem handleSSEMessage_agrees (agrees : Agrees g requests) {event : SseEvent}
    (announced : Announced g event) (reports : Reports g event) :
    Agrees g (handleSSEMessage requests event) := by
  unfold handleSSEMessage
  by_cases request : event.eventType = "approval_request"
  · obtain ⟨requestId, stored, found, names, student, context⟩ := announced request
    simp only [request, if_true, names, student, context]
    exact agrees.add found
  rw [if_neg request]
  by_cases result : event.eventType = "approval_result"
  · obtain ⟨requestId, action, names, tells, recorded, -⟩ := reports result
    simp only [result, if_true, names, tells]
    exact agrees.resolve recorded
  · rw [if_neg result]
    exact agrees

end

/-- Every page, whatever events and answers it has got of the gateway's and in whichever order, shows
the requests as they are stored, each at most once, as pending or with the decision that was made. -/
theorem pages_agree (decode : Decode) (ids : FreshIds) (cs : List Command)
    (regular : ∀ command ∈ cs, RegularCommand command) (inputs : List Input)
    (told : ∀ input ∈ inputs, Told ((gateway decode ids).run .empty cs) input) :
    Agrees ((gateway decode ids).run .empty cs).1 (inputs.foldl takeInput []) := by
  obtain ⟨consistent, announces⟩ := run_announces decode ids regular
  generalize (gateway decode ids).run .empty cs = run at *
  suffices ∀ requests, Agrees run.1 requests → Agrees run.1 (inputs.foldl takeInput requests) from
    this [] ⟨List.nodup_nil, fun r mem => by cases mem⟩
  induction inputs with
  | nil => exact fun requests agrees => agrees
  | cons input inputs ih =>
      intro requests agrees
      have here := told input List.mem_cons_self
      apply ih (fun later mem => told later (List.mem_cons_of_mem _ mem))
      cases input with
      | message event =>
          exact handleSSEMessage_agrees agrees (announces.sent event here) (consistent.sent event here)
      | answer call response =>
          cases response with
          | error refused => exact agrees
          | ok response =>
              obtain ⟨c, mem, invocation, finished⟩ := here
              have answered : answerOf c.position = some (.approval (.ok response)) := by
                rw [finished]
                rfl
              obtain ⟨names, decided⟩ := announces.answers c mem call invocation response answered
              obtain ⟨recorded, -⟩ := consistent.outcome c mem response answered
              rw [names, decided] at recorded
              exact agrees.resolve recorded

/-! An instructor hears of a request after its decision. -/

def decidedLog : List Command :=
  created ++ [.connect "instructor_smith", .resume 0, .resume 0,
    .arrive (.approval approveCall), .resume 1, .resume 1, .resume 1, .resume 1]

theorem late_page_agrees : Agrees ((gateway plainTokens countedIds).run .empty decidedLog).1
    ((((gateway plainTokens countedIds).run .empty decidedLog).2.reverse.map Input.message).foldl
      takeInput []) := by
  apply pages_agree plainTokens countedIds decidedLog
  · intro command mem
    simp only [decidedLog, created, List.cons_append, List.nil_append, List.mem_cons,
      List.not_mem_nil, or_false] at mem
    rcases mem with h | h | h | h | h | h | h | h | h | h <;> subst h <;> trivial
  · intro input mem
    obtain ⟨event, here, same⟩ := List.mem_map.mp mem
    subst same
    exact List.mem_reverse.mp here

end RealityAI.Proof.Dashboard
