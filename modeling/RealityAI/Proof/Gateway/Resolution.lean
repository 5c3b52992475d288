import RealityAI.Proof.Gateway.Turn

/-!
# An approval is resolved once, and everyone is told the same outcome
-/

namespace RealityAI.Proof.Gateway
open Library Python Model.Gateway

/-! ## The invariant -/

def Reports (g : ServerState) (e : SseEvent) : Prop :=
  e.eventType = "approval_result" → ∃ requestId action,
    Dict.get e.data "request_id" = .str requestId ∧ Dict.get e.data "action" = .str action ∧
    statusOf g requestId = some action ∧ action ≠ "pending"

def wins (requestId : String) (c : Coroutine) : Bool :=
  match answerOf c.position with
  | some (.approval (.ok response)) => response.requestId = requestId
  | _ => false

def decided (g : ServerState) (requestId : String) : Bool :=
  (statusOf g requestId).any (· ≠ "pending")

structure Consistent (ids : FreshIds) (log : List SseEvent) (g : ServerState) : Prop where
  fresh : ∀ k, g.drawn ≤ k → g.requests (ids.uuid4 k) = none
  outcome : ∀ c ∈ g.coroutines, ∀ response,
    answerOf c.position = some (.approval (.ok response)) →
      statusOf g response.requestId = some response.status ∧ response.status ≠ "pending"
  winners : ∀ requestId, g.coroutines.countP (wins requestId) = (decided g requestId).toNat
  waiting : ∀ c ∈ g.coroutines, ∀ e ∈ unsent c.position, Reports g e
  sent : ∀ e ∈ log, Reports g e

def Settles (g g' : ServerState) : Prop :=
  ∀ requestId action, statusOf g requestId = some action → action ≠ "pending" →
    statusOf g' requestId = some action

theorem Reports.mono {g g' : ServerState} {e : SseEvent} (settles : Settles g g')
    (reports : Reports g e) : Reports g' e := by
  intro result
  obtain ⟨requestId, action, names, tells, recorded, final⟩ := reports result
  exact ⟨requestId, action, names, tells, settles _ _ recorded final, final⟩

theorem statusOf_congr {g g' : ServerState} (same : g'.requests = g.requests) :
    statusOf g' = statusOf g := by
  funext requestId
  rw [statusOf, statusOf, same]

theorem decided_congr {g g' : ServerState} (same : g'.requests = g.requests) :
    decided g' = decided g := by
  funext requestId
  rw [decided, decided, statusOf_congr same]

theorem wins_iff {requestId : String} {c : Coroutine} : wins requestId c = true ↔
    ∃ response, answerOf c.position = some (.approval (.ok response)) ∧
      response.requestId = requestId := by
  unfold wins
  split
  · rename_i response answer
    simp [answer]
  · rename_i other
    simp only [Bool.false_eq_true, false_iff, not_exists, not_and]
    exact fun response answer => absurd answer (other response)

theorem wins_ready {requestId : String} {c : Coroutine} (ready : c.position = .ready) :
    wins requestId c = false := by
  rw [wins, ready]
  rfl

section
variable {decode : Decode} {ids : FreshIds} {log : List SseEvent} {g : ServerState}

theorem empty_consistent : Consistent ids [] .empty where
  fresh _ _ := rfl
  outcome c mem := by cases mem
  winners _ := rfl
  waiting c mem := by cases mem
  sent e mem := by cases mem

theorem Consistent.same {g' : ServerState} (inv : Consistent ids log g)
    (requests : g'.requests = g.requests) (drawn : g'.drawn = g.drawn)
    (coroutines : g'.coroutines = g.coroutines) : Consistent ids log g' := by
  have settles : Settles g g' := fun _ _ recorded _ => by
    rw [statusOf_congr requests]
    exact recorded
  refine ⟨?_, ?_, ?_, ?_, fun e mem => (inv.sent e mem).mono settles⟩
  · rw [requests, drawn]
    exact inv.fresh
  · rw [statusOf_congr requests, coroutines]
    exact inv.outcome
  · rw [decided_congr requests, coroutines]
    exact inv.winners
  · rw [coroutines]
    exact fun c mem e waits => (inv.waiting c mem e waits).mono settles

theorem Consistent.arrive (inv : Consistent ids log g) (invocation : Invocation) :
    Consistent ids log { g with coroutines := g.coroutines ++ [⟨invocation, .ready⟩] } where
  fresh := inv.fresh
  outcome c mem response answer := by
    rcases List.mem_append.mp mem with old | new
    · exact inv.outcome c old response answer
    · rw [List.mem_singleton.mp new] at answer
      cases answer
  winners requestId := by
    rw [List.countP_append, inv.winners requestId]
    rfl
  waiting c mem e waits := by
    rcases List.mem_append.mp mem with old | new
    · exact inv.waiting c old e waits
    · rw [List.mem_singleton.mp new] at waits
      cases waits
  sent := inv.sent

/-! ## A turn -/

variable {i : Nat} {c : Coroutine}

theorem countP_turn (here : g.coroutines[i]? = some c) (position : Position) (p : Coroutine → Bool) :
    (g.coroutines.set i { c with position }).countP p =
      g.coroutines.countP p - (p c).toNat + (p { c with position }).toNat := by
  obtain ⟨bound, at_i⟩ := List.getElem?_eq_some_iff.mp here
  rw [List.countP_set bound, at_i]
  cases p c <;> cases p { c with position } <;> rfl

def advanced (g : ServerState) (i : Nat) (c : Coroutine)
    (out : ServerState × Position × Option SseEvent) : ServerState :=
  { out.1 with coroutines := g.coroutines.set i { c with position := out.2.1 } }

theorem wins_le_countP (here : g.coroutines[i]? = some c) (requestId : String) :
    (wins requestId c).toNat ≤ g.coroutines.countP (wins requestId) := by
  cases won : wins requestId c with
  | false => exact Nat.zero_le _
  | true => exact List.countP_pos_iff.mpr ⟨c, List.mem_of_getElem? here, won⟩

theorem Consistent.proceed (inv : Consistent ids log g)
    (out : ServerState × Position × Option SseEvent) (here : g.coroutines[i]? = some c)
    (fresh : ∀ k, out.1.drawn ≤ k → out.1.requests (ids.uuid4 k) = none)
    (settles : Settles g out.1)
    (outcome : ∀ response, answerOf out.2.1 = some (.approval (.ok response)) →
      statusOf out.1 response.requestId = some response.status ∧ response.status ≠ "pending")
    (count : ∀ requestId,
      (decided g requestId).toNat + (wins requestId { c with position := out.2.1 }).toNat =
        (decided out.1 requestId).toNat + (wins requestId c).toNat)
    (told : ∀ e, e ∈ unsent out.2.1 ∨ out.2.2 = some e → Reports out.1 e) :
    Consistent ids (log ++ out.2.2.toList) (advanced g i c out) where
  fresh := fresh
  outcome c' mem response answer := by
    rcases List.mem_or_eq_of_mem_set mem with old | new
    · obtain ⟨known, final⟩ := inv.outcome c' old response answer
      exact ⟨settles _ _ known final, final⟩
    · rw [new] at answer
      exact outcome response answer
  winners requestId := by
    show (g.coroutines.set i { c with position := out.2.1 }).countP (wins requestId) =
      (decided out.1 requestId).toNat
    have := count requestId
    have := wins_le_countP here requestId
    rw [countP_turn here]
    rw [inv.winners requestId] at this ⊢
    omega
  waiting c' mem e waits := by
    rcases List.mem_or_eq_of_mem_set mem with old | new
    · exact (inv.waiting c' old e waits).mono settles
    · rw [new] at waits
      exact told e (.inl waits)
  sent e sent := by
    rcases List.mem_append.mp sent with old | new
    · exact (inv.sent e old).mono settles
    · exact told e (.inr (Option.mem_toList.mp new))

theorem Consistent.quiet (inv : Consistent ids log g) (here : g.coroutines[i]? = some c)
    {out : ServerState × Position × Option SseEvent} (quiet : Quiet g c out) :
    Consistent ids (log ++ out.2.2.toList) (advanced g i c out) := by
  have mem := List.mem_of_getElem? here
  have status := statusOf_congr quiet.requests
  refine inv.proceed out here ?_ ?_ ?_ ?_ ?_
  · rw [quiet.drawn, quiet.requests]
    exact inv.fresh
  · intro requestId action recorded _
    rw [status]
    exact recorded
  · intro response answer
    rw [status]
    exact inv.outcome c mem response ((quiet.answer response).mp answer)
  · intro requestId
    have same : wins requestId { c with position := out.2.1 } = wins requestId c := by
      rw [Bool.eq_iff_iff, wins_iff, wins_iff]
      exact exists_congr fun response => and_congr_left' (quiet.answer response)
    rw [same, decided_congr quiet.requests]
  · intro e owed result
    rw [status]
    rcases quiet.events e owed with old | other
    · exact inv.waiting c mem e old result
    · exact absurd result other

theorem statusOf_update {requests : String → Option ApprovalRequest} {requestId : String}
    {request : ApprovalRequest} (same : g.requests = Function.update requests requestId (some request))
    (other : String) : statusOf g other =
      if other = requestId then some request.status
      else (requests other).map ApprovalRequest.status := by
  rw [statusOf, same, Function.update_apply]
  split <;> rfl

section
variable {call : ApprovalCall} {user : TokenData} {request : ApprovalRequest}

theorem resolved_status (other : String) : statusOf (resolvedState g request call) other =
    if other = call.requestId then some call.body.action else statusOf g other :=
  statusOf_update (g := resolvedState g request call) rfl other

theorem wins_resolved (requestId : String) :
    wins requestId { c with position := resolvedPosition request call user } =
      decide (requestId = call.requestId) := by
  show decide (call.requestId = requestId) = _
  exact decide_eq_decide.mpr eq_comm

variable (decides : Decides decode g c call user request)
include decides

theorem Decides.final : call.body.action ≠ "pending" := by
  rcases decides.action with approve | reject
  · rw [approve]
    decide
  · rw [reject]
    decide

theorem Decides.status : statusOf g call.requestId = some "pending" := by
  rw [statusOf, decides.found, ← decides.pending]
  rfl

theorem Decides.settles : Settles g (resolvedState g request call) := by
  intro requestId action recorded final
  rw [resolved_status]
  split
  · rename_i same
    rw [same, decides.status] at recorded
    exact absurd (Option.some.inj recorded).symm final
  · exact recorded

theorem Consistent.resolves (inv : Consistent ids log g) (here : g.coroutines[i]? = some c) :
    Consistent ids log
      (advanced g i c (resolvedState g request call, resolvedPosition request call user, none)) := by
  have kept := inv.proceed (resolvedState g request call, resolvedPosition request call user, none)
    here ?_ decides.settles ?_ ?_ ?_
  · rwa [Option.toList_none, List.append_nil] at kept
  · intro k unused
    have other : ids.uuid4 k ≠ call.requestId := by
      intro same
      have found := decides.found
      rw [← same, inv.fresh k unused] at found
      cases found
    show Function.update g.requests call.requestId _ (ids.uuid4 k) = none
    rw [Function.update_of_ne other]
    exact inv.fresh k unused
  · intro response answer
    cases answer
    exact ⟨(resolved_status _).trans (if_pos rfl), decides.final⟩
  · intro requestId
    rw [wins_ready decides.ready, wins_resolved, decided, decided, resolved_status]
    by_cases same : requestId = call.requestId
    · subst same
      simp [decides.status, decides.final]
    · simp [same]
  · intro e owed _
    have same : e = resultEvent call user := by simpa [resolvedPosition, unsent] using owed
    subst same
    exact ⟨call.requestId, call.body.action, rfl, rfl, (resolved_status _).trans (if_pos rfl),
      decides.final⟩

end

section
variable {request : ApprovalRequest} {position : Position}

def createdState (g : ServerState) (request : ApprovalRequest) : ServerState :=
  { g with
    requests := Function.update g.requests request.requestId (some request)
    drawn := g.drawn + 1 }

theorem created_status (other : String) : statusOf (createdState g request) other =
    if other = request.requestId then some request.status else statusOf g other :=
  statusOf_update (g := createdState g request) rfl other

variable (inv : Consistent ids log g) (drawn : request.requestId = ids.uuid4 g.drawn)
include inv drawn

theorem Consistent.unknown : statusOf g request.requestId = none := by
  rw [statusOf, drawn, inv.fresh _ le_rfl]
  rfl

theorem Consistent.created_settles : Settles g (createdState g request) := by
  intro requestId action recorded _
  rw [created_status]
  split
  · rename_i same
    rw [same, inv.unknown drawn] at recorded
    cases recorded
  · exact recorded

theorem Consistent.creates (here : g.coroutines[i]? = some c) (ready : c.position = .ready)
    (pending : request.status = "pending")
    (answer : answerOf position = some (.created request.requestId))
    (silent : ∀ e ∈ unsent position, e.eventType ≠ "approval_result") :
    Consistent ids log (advanced g i c (createdState g request, position, none)) := by
  have kept := inv.proceed (createdState g request, position, none) here ?_
    (inv.created_settles drawn) ?_ ?_ ?_
  · rwa [Option.toList_none, List.append_nil] at kept
  · intro k unused
    have later : g.drawn < k := unused
    have other : ids.uuid4 k ≠ request.requestId := by
      rw [drawn]
      exact fun same => later.ne' (ids.distinct same)
    show Function.update g.requests request.requestId _ (ids.uuid4 k) = none
    rw [Function.update_of_ne other]
    exact inv.fresh k later.le
  · intro response other
    rw [answer] at other
    cases other
  · intro requestId
    have loses : wins requestId { c with position } = false := by
      rw [wins, answer]
    rw [wins_ready ready, loses, decided, decided, created_status]
    by_cases same : requestId = request.requestId
    · subst same
      simp [inv.unknown drawn, pending]
    · simp [same]
  · intro e owed result
    exact absurd result (silent e (by simpa using owed))

end

/-! ## Every run -/

theorem takeCommand_resume (here : g.coroutines[i]? = some c) :
    takeCommand decode ids g (.resume i) =
      (advanced g i c (turn decode ids g c), (turn decode ids g c).2.2.toList) := by
  simp only [takeCommand, here]
  rfl

theorem takeCommand_lost (lost : g.coroutines[i]? = none) :
    takeCommand decode ids g (.resume i) = (g, []) := by
  simp only [takeCommand, lost]

theorem getConnection_same (userId : String) : (getConnection g userId).requests = g.requests ∧
    (getConnection g userId).drawn = g.drawn ∧
    (getConnection g userId).coroutines = g.coroutines := by
  unfold getConnection
  split <;> exact ⟨rfl, rfl, rfl⟩

theorem takeCommand_consistent (inv : Consistent ids log g) (command : Command) :
    Consistent ids (log ++ (takeCommand decode ids g command).2)
      (takeCommand decode ids g command).1 := by
  cases command with
  | arrive invocation => exact (List.append_nil log).symm ▸ inv.arrive invocation
  | connect userId =>
      obtain ⟨requests, drawn, coroutines⟩ := getConnection_same (g := g) userId
      exact (List.append_nil log).symm ▸ inv.same requests drawn coroutines
  | disconnect userId => exact (List.append_nil log).symm ▸ inv.same rfl rfl rfl
  | read queue => exact (List.append_nil log).symm ▸ inv.same rfl rfl rfl
  | resume i =>
      cases here : g.coroutines[i]? with
      | none =>
          rw [takeCommand_lost here, List.append_nil]
          exact inv
      | some c =>
          rw [takeCommand_resume here]
          have cases := turn_cases decode ids g c
          generalize turn decode ids g c = out at cases
          cases cases with
          | quiet quiet => exact inv.quiet here quiet
          | decides decides => exact (List.append_nil log).symm ▸ inv.resolves decides here
          | creates ready pending drawn answer silent =>
              exact (List.append_nil log).symm ▸ inv.creates drawn here ready pending answer silent

variable (decode ids) in
theorem run_consistent (cs : List Command) : Consistent ids
    ((gateway decode ids).run .empty cs).2 ((gateway decode ids).run .empty cs).1 := by
  have step (log : List SseEvent) (g : ServerState) (command : Command) (_ : True)
      (inv : Consistent ids log g) : Consistent ids
        (log ++ ((gateway decode ids).step g command).2) ((gateway decode ids).step g command).1 :=
    takeCommand_consistent inv command
  exact Machine.run_logged step (Machine.along_true _ _ cs) empty_consistent

variable (decode) in
theorem takeCommand_settles (inv : Consistent ids log g) (command : Command) :
    Settles g (takeCommand decode ids g command).1 := by
  have same {g' : ServerState} (requests : g'.requests = g.requests) : Settles g g' := by
    intro requestId action recorded _
    rw [statusOf_congr requests]
    exact recorded
  cases command with
  | arrive invocation => exact same rfl
  | connect userId => exact same (getConnection_same userId).1
  | disconnect userId => exact same rfl
  | read queue => exact same rfl
  | resume i =>
      cases here : g.coroutines[i]? with
      | none =>
          rw [takeCommand_lost here]
          exact same rfl
      | some c =>
          rw [takeCommand_resume here]
          have cases := turn_cases decode ids g c
          generalize turn decode ids g c = out at cases
          cases cases with
          | quiet quiet => exact same quiet.requests
          | decides decides => exact decides.settles
          | creates _ _ drawn => exact inv.created_settles drawn

/-! ## The answer to one call -/

structure Valid (decode : Decode) (call : ApprovalCall) : Prop where
  user : ∃ user, verifyToken decode call.token = .ok user
  action : call.body.action = "approve" ∨ call.body.action = "reject"

def Fits (decode : Decode) (g : ServerState) (call : ApprovalCall) (answer : Answer) : Prop :=
  ∃ action, statusOf g call.requestId = some action ∧ action ≠ "pending" ∧
    (answer = .approval (.error ⟨409, "Request already " ++ action⟩) ∨
      ∃ user, verifyToken decode call.token = .ok user ∧ call.body.action = action ∧
        answer = .approval (.ok (approvalResponse call user)))

structure Answering (decode : Decode) (ids : FreshIds) (call : ApprovalCall) (i : Nat)
    (g : ServerState) : Prop where
  consistent : ∃ log, Consistent ids log g
  created : statusOf g call.requestId ≠ none
  answer : ∃ c, g.coroutines[i]? = some c ∧ c.invocation = .approval call ∧
    (c.position = .ready ∨ ∃ answer, answerOf c.position = some answer ∧ Fits decode g call answer)

theorem Fits.mono {g' : ServerState} {call : ApprovalCall} {answer : Answer}
    (settles : Settles g g') (fits : Fits decode g call answer) : Fits decode g' call answer := by
  obtain ⟨action, recorded, final, outcome⟩ := fits
  exact ⟨action, settles _ _ recorded final, final, outcome⟩

theorem turn_answered {answer : Answer} (answered : answerOf c.position = some answer) :
    answerOf (turn decode ids g c).2.1 = some answer := by
  unfold turn
  cases position : c.position with
  | ready =>
      rw [position] at answered
      cases answered
  | push p later answer' =>
      rw [position] at answered
      dsimp only
      split
      · exact answered
      · exact (answerOf_next _ _).trans answered
  | put queue event later answer' =>
      rw [position] at answered
      exact (answerOf_next _ _).trans answered
  | finished answer' =>
      rw [position] at answered
      exact answered

theorem turn_valid {call : ApprovalCall} (valid : Valid decode call)
    (created : statusOf g call.requestId ≠ none) (invocation : c.invocation = .approval call)
    (ready : c.position = .ready) : ∃ answer,
      answerOf (turn decode ids g c).2.1 = some answer ∧
        Fits decode (turn decode ids g c).1 call answer := by
  obtain ⟨user, token⟩ := valid.user
  have action : ¬ (call.body.action ≠ "approve" ∧ call.body.action ≠ "reject") := by
    rw [not_and_or, not_not, not_not]
    exact valid.action
  cases found : g.requests call.requestId with
  | none => exact absurd (by rw [statusOf, found]; rfl) created
  | some request =>
      have made : turn decode ids g c =
          ((handleApproval g user call).1, (handleApproval g user call).2, none) := by
        simp only [turn, ready, invocation, begin, token]
      rw [made]
      unfold handleApproval
      dsimp only
      rw [if_neg action, found]
      dsimp only
      by_cases pending : request.status = "pending"
      · rw [if_neg (not_not.mpr pending)]
        have decides : Decides decode g c call user request :=
          ⟨invocation, ready, token, valid.action, found, pending⟩
        exact ⟨_, rfl, call.body.action, (resolved_status _).trans (if_pos rfl),
          decides.final, .inr ⟨user, token, rfl, rfl⟩⟩
      · rw [if_pos pending]
        exact ⟨_, rfl, request.status, by rw [refuse, statusOf, found]; rfl, pending, .inl rfl⟩

theorem takeCommand_created (command : Command) {requestId : String}
    (created : statusOf g requestId ≠ none) :
    statusOf (takeCommand decode ids g command).1 requestId ≠ none := by
  cases command with
  | arrive invocation => exact created
  | connect userId =>
      show statusOf (getConnection g userId) requestId ≠ none
      rw [statusOf_congr (getConnection_same userId).1]
      exact created
  | disconnect userId => exact created
  | read queue => exact created
  | resume i =>
      cases here : g.coroutines[i]? with
      | none =>
          rw [takeCommand_lost here]
          exact created
      | some c =>
          rw [takeCommand_resume here]
          have cases := turn_cases decode ids g c
          generalize turn decode ids g c = out at cases
          cases cases with
          | quiet quiet => exact statusOf_congr quiet.requests ▸ created
          | decides =>
              show statusOf (resolvedState g _ _) requestId ≠ none
              rw [resolved_status]
              split
              · exact Option.some_ne_none _
              · exact created
          | creates =>
              show statusOf (createdState g _) requestId ≠ none
              rw [created_status]
              split
              · exact Option.some_ne_none _
              · exact created

theorem takeCommand_answering {call : ApprovalCall} (valid : Valid decode call)
    (command : Command) (answering : Answering decode ids call i g) :
    Answering decode ids call i (takeCommand decode ids g command).1 := by
  obtain ⟨log, inv⟩ := answering.consistent
  obtain ⟨c, here, invocation, answer⟩ := answering.answer
  have settles := takeCommand_settles decode inv command
  refine ⟨⟨_, takeCommand_consistent inv command⟩,
    takeCommand_created command answering.created, ?_⟩
  have kept {g' : ServerState} (settles : Settles g g') (here' : g'.coroutines[i]? = some c) :
      ∃ c, g'.coroutines[i]? = some c ∧ c.invocation = .approval call ∧ (c.position = .ready ∨
        ∃ answer, answerOf c.position = some answer ∧ Fits decode g' call answer) := by
    refine ⟨c, here', invocation, answer.imp_right ?_⟩
    intro ⟨answer, answered, fits⟩
    exact ⟨answer, answered, fits.mono settles⟩
  cases command with
  | arrive invocation' =>
      apply kept settles
      show (g.coroutines ++ _)[i]? = some c
      rw [List.getElem?_append_left (List.getElem?_eq_some_iff.mp here).1, here]
  | connect userId =>
      apply kept settles
      show (getConnection g userId).coroutines[i]? = some c
      rw [(getConnection_same userId).2.2, here]
  | disconnect userId => exact kept settles here
  | read queue => exact kept settles here
  | resume j =>
      cases there : g.coroutines[j]? with
      | none =>
          rw [takeCommand_lost there] at settles ⊢
          exact kept settles here
      | some c' =>
          rw [takeCommand_resume there] at settles ⊢
          by_cases same : j = i
          · subst same
            obtain rfl : c = c' := Option.some.inj (here.symm.trans there)
            have bound := (List.getElem?_eq_some_iff.mp here).1
            refine ⟨{ c with position := (turn decode ids g c).2.1 }, ?_, invocation, .inr ?_⟩
            · exact List.getElem?_set_self bound
            · rcases answer with ready | ⟨answer, answered, fits⟩
              · exact turn_valid valid answering.created invocation ready
              · exact ⟨answer, turn_answered answered, fits.mono settles⟩
          · apply kept settles
            show (g.coroutines.set j _)[i]? = some c
            rw [List.getElem?_set_ne same, here]

end

/-! ## The outcome of a request -/

/-- The answer to a valid call: there is one winner, its decision is recorded, and the call is the
winner or is told the decision. -/
structure OneOutcome (decode : Decode) (g : ServerState) (call : ApprovalCall) (answer : Answer) :
    Prop where
  fits : Fits decode g call answer
  winner : g.coroutines.countP (wins call.requestId) = 1
  recorded : ∀ c ∈ g.coroutines, ∀ response,
    answerOf c.position = some (.approval (.ok response)) →
      statusOf g response.requestId = some response.status

/-- In every interleaving a decision is final, every result that is pushed carries it, and of the
valid calls for a request that is there one wins and the others are told that it is decided. -/
theorem approvals_resolved_once (decode : Decode) (ids : FreshIds) (cs : List Command) :
    let run := (gateway decode ids).run .empty
    (∀ before, before <+: cs → Settles (run before).1 (run cs).1) ∧
    (∀ e ∈ (run cs).2, Reports (run cs).1 e) ∧
    ∀ before call, before ++ [.arrive (.approval call)] <+: cs → Valid decode call →
      statusOf (run before).1 call.requestId ≠ none →
      ∀ answer, (run cs).1.coroutines[(run before).1.coroutines.length]? =
          some ⟨.approval call, .finished answer⟩ →
        OneOutcome decode (run cs).1 call answer := by
  intro run
  have everywhere (cs : List Command) : Consistent ids (run cs).2 (run cs).1 :=
    run_consistent decode ids cs
  refine ⟨?_, (everywhere cs).sent, ?_⟩
  · intro before ⟨later, split⟩ requestId action recorded final
    rw [← split, show (run (before ++ later)).1 = _ from Machine.run_append _ _ _]
    have kept := Machine.run_invariant (m := gateway decode ids) (P := fun _ _ => True)
      (Q := fun g => (∃ log, Consistent ids log g) ∧ statusOf g requestId = some action)
      (fun g command _ ⟨⟨log, inv⟩, recorded⟩ => ⟨⟨_, takeCommand_consistent inv command⟩,
        takeCommand_settles decode inv command _ _ recorded final⟩)
      (Machine.along_true _ _ later) ⟨⟨_, everywhere before⟩, recorded⟩
    exact kept.2
  · intro before call ⟨later, split⟩ valid created answer returned
    have arrived : Answering decode ids call (run before).1.coroutines.length
        (run (before ++ [.arrive (.approval call)])).1 := by
      refine ⟨⟨_, everywhere _⟩, ?_, ?_⟩
      · rw [show (run (before ++ _)).1 = _ from Machine.run_append _ _ _]
        exact created
      · rw [show (run (before ++ _)).1 = _ from Machine.run_append _ _ _]
        exact ⟨⟨.approval call, .ready⟩, List.getElem?_concat_length, rfl, .inl rfl⟩
    have answering := Machine.run_invariant (m := gateway decode ids) (P := fun _ _ => True)
      (fun g command _ kept => takeCommand_answering valid command kept)
      (Machine.along_true _ _ later) arrived
    rw [← Machine.run_append, split] at answering
    obtain ⟨c, here, -, waiting⟩ := answering.answer
    obtain rfl : _ = c := Option.some.inj (returned.symm.trans here)
    rcases waiting with ready | ⟨answer', same, fits⟩
    · cases ready
    cases same
    refine ⟨fits, ?_, fun c mem response answered =>
      ((everywhere cs).outcome c mem response answered).1⟩
    obtain ⟨action, recorded, final, -⟩ := fits
    rw [(everywhere cs).winners, decided, recorded]
    simp [final]

/-! The instructor approves in one window and rejects in another. -/

def countedIds : FreshIds where
  uuid4 n := String.ofList ('r' :: List.replicate n '0')
  distinct n m same := by
    have lists := congrArg (fun s => s.toList.length) same
    simpa using lists

def plainTokens : Decode := fun token => .ok [("sub", .str token), ("role", .str "instructor")]

def approveCall : ApprovalCall := ⟨"r", ⟨"approve", ""⟩, "instructor_smith"⟩

def rejectCall : ApprovalCall := ⟨"r", ⟨"reject", "Late"⟩, "instructor_smith"⟩

def created : List Command := [.arrive (.create "S001" "instructor_smith" []), .resume 0]

def twoWindows : List Command :=
  created ++ [.arrive (.approval approveCall), .arrive (.approval rejectCall), .resume 2, .resume 1]

theorem second_window_told :
    OneOutcome plainTokens ((gateway plainTokens countedIds).run .empty twoWindows).1 approveCall
      (.approval (.error ⟨409, "Request already reject"⟩)) :=
  (approvals_resolved_once plainTokens countedIds twoWindows).2.2 created approveCall
    ⟨_, rfl⟩ ⟨⟨⟨"instructor_smith", "instructor"⟩, rfl⟩, .inl rfl⟩ (by rw [created]; decide) _ rfl

end RealityAI.Proof.Gateway
