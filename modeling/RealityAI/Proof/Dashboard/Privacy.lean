import RealityAI.Proof.Dashboard.Serial

namespace RealityAI.Proof.Dashboard
open Library Python Model.Gateway Model.Dashboard Proof.Gateway

abbrev Requests := String → Option Model.Gateway.ApprovalRequest

/-- A request is for the eyes of its instructor, and its decision also for those of its student. -/
structure Concerns (requests : Requests) (userId : String) (e : SseEvent) : Prop where
  request : e.eventType = "approval_request" → ∃ requestId request,
    requests requestId = some request ∧ Dict.get e.data "request_id" = .str requestId ∧
      request.instructorId = userId
  result : e.eventType = "approval_result" → ∃ requestId request,
    requests requestId = some request ∧ Dict.get e.data "request_id" = .str requestId ∧
      (request.userId = userId ∨ request.instructorId = userId)

def opened (g : ServerState) : Command → List String
  | .connect userId =>
      match g.connections userId with
      | some _ => []
      | none => [userId]
  | _ => []

def Proper (owners : List String) (requests : Requests) : Position → Prop
  | .ready => True
  | .push p later _ => ∀ q ∈ p :: later, Concerns requests q.userId q.event
  | .put queue event later _ =>
      (∃ userId, owners[queue]? = some userId ∧ Concerns requests userId event) ∧
        ∀ q ∈ later, Concerns requests q.userId q.event
  | .finished _ => True

structure Delivered (owners : List String) (g : ServerState) : Prop where
  length : owners.length = g.queues.length
  connections : ∀ userId queue, g.connections userId = some queue → owners[queue]? = some userId
  queues : ∀ (queue : Nat) content userId, g.queues[queue]? = some content →
    owners[queue]? = some userId → ∀ e ∈ content, Concerns g.requests userId e

structure Confidential (owners : List String) (g : ServerState) : Prop
    extends Delivered owners g where
  regular : ∀ c ∈ g.coroutines, Regular c.invocation
  proper : ∀ c ∈ g.coroutines, Proper owners g.requests c.position

section
variable {decode : Decode} {ids : FreshIds} {log : List SseEvent} {owners : List String}
  {requests : Requests} {g g' : ServerState} {c : Coroutine} {i : Nat}

theorem Concerns.mono {userId : String} {e : SseEvent} (kept : Kept g g')
    (concerns : Concerns g.requests userId e) : Concerns g'.requests userId e where
  request type := by
    obtain ⟨requestId, request, found, names, own⟩ := concerns.request type
    obtain ⟨status, found'⟩ := kept requestId request found
    exact ⟨requestId, _, found', names, own⟩
  result type := by
    obtain ⟨requestId, request, found, names, own⟩ := concerns.result type
    obtain ⟨status, found'⟩ := kept requestId request found
    exact ⟨requestId, _, found', names, own⟩

theorem Proper.mono {position : Position} (kept : Kept g g')
    (proper : Proper owners g.requests position) : Proper owners g'.requests position := by
  cases position with
  | ready | finished answer => trivial
  | push p later answer => exact fun q mem => (proper q mem).mono kept
  | put queue event later answer =>
      obtain ⟨⟨userId, own, concerns⟩, rest⟩ := proper
      exact ⟨⟨userId, own, concerns.mono kept⟩, fun q mem => (rest q mem).mono kept⟩

theorem Proper.append {position : Position} (proper : Proper owners requests position)
    (more : List String) : Proper (owners ++ more) requests position := by
  cases position with
  | ready | finished answer => trivial
  | push p later answer => exact proper
  | put queue event later answer =>
      obtain ⟨⟨userId, own, concerns⟩, rest⟩ := proper
      refine ⟨⟨userId, ?_, concerns⟩, rest⟩
      rwa [List.getElem?_append_left (List.getElem?_eq_some_iff.mp own).1]

theorem proper_next {pushes : List Push} (answer : Answer)
    (concern : ∀ q ∈ pushes, Concerns requests q.userId q.event) :
    Proper owners requests (next answer pushes) := by
  cases pushes with
  | nil => trivial
  | cons p later => exact concern

theorem Delivered.mono (delivered : Delivered owners g) (kept : Kept g g')
    (connections : g'.connections = g.connections) (queues : g'.queues = g.queues) :
    Delivered owners g' where
  length := delivered.length.trans (congrArg List.length queues).symm
  connections userId queue found := delivered.connections userId queue (connections ▸ found)
  queues queue content userId found own e mem :=
    (delivered.queues queue content userId (queues ▸ found) own e mem).mono kept

theorem Delivered.modify (delivered : Delivered owners g) {queue : Nat}
    {f : List SseEvent → List SseEvent} (new : ∀ old, ∀ e ∈ f old, e ∈ old ∨
      ∃ userId, owners[queue]? = some userId ∧ Concerns g.requests userId e) :
    Delivered owners { g with queues := g.queues.modify queue f } := by
  refine ⟨?_, delivered.connections, ?_⟩
  · rw [List.length_modify]
    exact delivered.length
  intro queue' content userId found own e mem
  by_cases same : queue = queue'
  · subst same
    rw [List.getElem?_modify_eq] at found
    obtain ⟨old, here, same⟩ := Option.map_eq_some_iff.mp found
    subst same
    rcases new old e mem with before | ⟨userId', own', concerns⟩
    · exact delivered.queues _ old userId here own e before
    · exact Option.some.inj (own'.symm.trans own) ▸ concerns
  · rw [List.getElem?_modify_ne _ _ same] at found
    exact delivered.queues queue' content userId found own e mem

theorem Delivered.connect (delivered : Delivered owners g) (userId : String) :
    Delivered (owners ++ opened g (.connect userId)) (getConnection g userId) := by
  cases new : g.connections userId with
  | some queue =>
      have connected : opened g (.connect userId) = [] ∧ getConnection g userId = g := by
        simp [opened, getConnection, new]
      rw [connected.1, connected.2, List.append_nil]
      exact delivered
  | none =>
      have fresh : opened g (.connect userId) = [userId] := by simp [opened, new]
      rw [fresh, getConnection, new]
      refine ⟨by simp [delivered.length], ?_, ?_⟩
      · intro userId' queue (found : Function.update _ _ _ _ = _)
        by_cases same : userId' = userId
        · subst same
          rw [Function.update_self] at found
          cases found
          rw [← delivered.length]
          exact List.getElem?_concat_length
        · rw [Function.update_of_ne same] at found
          have own := delivered.connections userId' queue found
          rwa [List.getElem?_append_left (List.getElem?_eq_some_iff.mp own).1]
      · intro queue content userId' (found : (g.queues ++ [[]])[queue]? = _) own e mem
        by_cases old : queue < g.queues.length
        · rw [List.getElem?_append_left old] at found
          rw [List.getElem?_append_left (delivered.length ▸ old)] at own
          exact delivered.queues queue content userId' found own e mem
        · rw [List.getElem?_append_right (not_lt.mp old)] at found
          cases List.mem_singleton.mp (List.mem_of_getElem? found)
          cases mem

/-! ## One turn -/

theorem Begins.concerns {pushes : List Push} (begins : Begins ids g g' pushes) :
    ∀ p ∈ pushes, Concerns g'.requests p.userId p.event := by
  intro p mem
  cases begins with
  | quiet silent =>
      obtain ⟨noRequest, noResult⟩ := silent p mem
      exact ⟨fun type => absurd type noRequest, fun type => absurd type noResult⟩
  | @decides call user request found pending final =>
      have stored : (resolvedState g request call).requests call.requestId =
        some (resolved request call) := Function.update_self ..
      rcases List.mem_cons.mp mem with student | instructor
      · rw [student]
        exact ⟨fun type => absurd type (by simp [resultEvent]),
          fun _ => ⟨_, _, stored, rfl, .inl rfl⟩⟩
      · rw [List.mem_singleton.mp instructor]
        exact ⟨fun type => absurd type (by simp [resultEvent]),
          fun _ => ⟨_, _, stored, rfl, .inr rfl⟩⟩
  | @creates request pending drawn =>
      rw [List.mem_singleton.mp mem]
      refine ⟨fun _ => ⟨request.requestId, request, Function.update_self .., rfl, rfl⟩, ?_⟩
      exact fun type => absurd type (by simp [announcement])

variable (decode ids) in
theorem turn_confidential (inv : Confidential owners g) (consistent : Consistent ids log g)
    (mem : c ∈ g.coroutines) : Delivered owners (turn decode ids g c).1 ∧
      Proper owners (turn decode ids g c).1.requests (turn decode ids g c).2.1 := by
  have proper := inv.proper c mem
  cases position : c.position with
  | ready =>
      obtain ⟨g', answer, pushes, begun, -, begins⟩ := begin_begins decode ids g (inv.regular c mem)
      have turned : turn decode ids g c = (g', next answer pushes, none) := by
        simp [turn, position, begun]
      have kept : Kept g (turn decode ids g c).1 := turn_kept consistent
      have same : g'.connections = g.connections ∧ g'.queues = g.queues := by
        cases begins <;> exact ⟨rfl, rfl⟩
      rw [turned] at kept ⊢
      exact ⟨inv.mono kept same.1 same.2, proper_next answer begins.concerns⟩
  | push p later answer =>
      rw [position] at proper
      obtain ⟨concerns, rest⟩ := List.forall_mem_cons.mp proper
      cases connected : g.connections p.userId with
      | none =>
          have turned : turn decode ids g c = (g, next answer later, none) := by
            simp [turn, position, connected]
          rw [turned]
          exact ⟨inv.toDelivered, proper_next answer rest⟩
      | some queue =>
          have turned : turn decode ids g c = (g, .put queue p.event later answer, none) := by
            simp [turn, position, connected]
          rw [turned]
          exact ⟨inv.toDelivered, ⟨p.userId, inv.connections _ _ connected, concerns⟩, rest⟩
  | put queue event later answer =>
      rw [position] at proper
      obtain ⟨⟨userId, own, concerns⟩, rest⟩ := proper
      have turned : turn decode ids g c =
          ({ g with queues := g.queues.modify queue (· ++ [event]) }, next answer later,
            some event) := by
        simp [turn, position]
      rw [turned]
      refine ⟨inv.modify fun old e mem => ?_, proper_next answer rest⟩
      rcases List.mem_append.mp mem with before | now
      · exact .inl before
      · exact .inr ⟨userId, own, List.mem_singleton.mp now ▸ concerns⟩
  | finished answer =>
      have turned : turn decode ids g c = (g, .finished answer, none) := by simp [turn, position]
      rw [turned]
      exact ⟨inv.toDelivered, trivial⟩

theorem Confidential.resume (inv : Confidential owners g) (consistent : Consistent ids log g)
    (here : g.coroutines[i]? = some c) :
    Confidential owners (advanced g i c (turn decode ids g c)) := by
  have mem := List.mem_of_getElem? here
  have kept : Kept g (turn decode ids g c).1 := turn_kept consistent
  obtain ⟨delivered, proper⟩ := turn_confidential decode ids inv consistent mem
  refine ⟨⟨delivered.length, delivered.connections, delivered.queues⟩,
    forall_advanced inv.regular (inv.regular c mem), forall_advanced ?_ proper⟩
  exact fun c' mem' => (inv.proper c' mem').mono kept

/-! ## Every run -/

theorem takeCommand_confidential (inv : Confidential owners g) (consistent : Consistent ids log g)
    {command : Command} (regular : RegularCommand command) :
    Confidential (owners ++ opened g command) (takeCommand decode ids g command).1 := by
  cases command with
  | arrive invocation =>
      show Confidential (owners ++ []) _
      rw [List.append_nil]
      exact ⟨inv.mono (.of_same rfl) rfl rfl, forall_arrived inv.regular regular,
        forall_arrived inv.proper trivial⟩
  | connect userId =>
      obtain ⟨requests, -, coroutines⟩ := getConnection_same (g := g) userId
      refine ⟨inv.connect userId, ?_, ?_⟩
      · exact coroutines ▸ inv.regular
      · intro c mem
        show Proper _ (getConnection g userId).requests _
        rw [requests]
        exact (inv.proper c (coroutines ▸ mem)).append _
  | disconnect userId =>
      show Confidential (owners ++ []) _
      rw [List.append_nil]
      refine ⟨⟨inv.length, ?_, inv.queues⟩, inv.regular, inv.proper⟩
      intro userId' queue (found : Function.update _ _ _ _ = _)
      by_cases same : userId' = userId
      · subst same
        rw [Function.update_self] at found
        cases found
      · rw [Function.update_of_ne same] at found
        exact inv.connections userId' queue found
  | read queue =>
      show Confidential (owners ++ []) _
      rw [List.append_nil]
      exact ⟨inv.modify fun old e mem => .inl (List.mem_of_mem_tail mem), inv.regular, inv.proper⟩
  | resume i =>
      show Confidential (owners ++ []) _
      rw [List.append_nil]
      cases here : g.coroutines[i]? with
      | none =>
          rw [takeCommand_lost here]
          exact inv
      | some c =>
          rw [takeCommand_resume here]
          exact inv.resume consistent here

theorem takeCommand_kept (consistent : Consistent ids log g) (command : Command) :
    Kept g (takeCommand decode ids g command).1 := by
  cases command with
  | connect userId => exact .of_same (getConnection_same userId).1
  | arrive _ | disconnect _ | read _ => exact .of_same rfl
  | resume i =>
      cases here : g.coroutines[i]? with
      | none =>
          rw [takeCommand_lost here]
          exact .of_same rfl
      | some c =>
          rw [takeCommand_resume here]
          exact turn_kept consistent

theorem Kept.trans {g'' : ServerState} (first : Kept g g') (second : Kept g' g'') : Kept g g'' := by
  intro requestId request found
  obtain ⟨status, found'⟩ := first requestId request found
  obtain ⟨status', found''⟩ := second requestId _ found'
  exact ⟨status', found''⟩

theorem run_kept (consistent : Consistent ids log g) (cs : List Command) :
    Kept g ((gateway decode ids).run g cs).1 := by
  have step (done : List SseEvent) (g' : ServerState) (c : Command) (_ : True)
      (inv : Consistent ids done g' ∧ Kept g g') :
      Consistent ids (done ++ (takeCommand decode ids g' c).2) (takeCommand decode ids g' c).1 ∧
        Kept g (takeCommand decode ids g' c).1 :=
    ⟨takeCommand_consistent inv.1 c, inv.2.trans (takeCommand_kept inv.1 c)⟩
  exact (Machine.run_logged (m := gateway decode ids) step (Machine.along_true _ _ cs)
    ⟨consistent, .of_same rfl⟩).2

end

section
variable (decode : Decode) (ids : FreshIds)

def owners (cs : List Command) : List String :=
  (((gateway decode ids).logging opened).run .empty cs).2

/-- The event stands on the queue at some time of the run. -/
def StoodOn (cs : List Command) (queue : Nat) (e : SseEvent) : Prop :=
  ∃ before content, before <+: cs ∧
    ((gateway decode ids).run .empty before).1.queues[queue]? = some content ∧ e ∈ content

variable {decode ids} {cs : List Command}

variable (decode ids) in
theorem run_confidential (regular : ∀ command ∈ cs, RegularCommand command) :
    Confidential (owners decode ids cs) ((gateway decode ids).run .empty cs).1 := by
  have step (owners : List String) (g : ServerState) (c : Command) (regular : RegularCommand c)
      (inv : (∃ log, Consistent ids log g) ∧ Confidential owners g) :
      (∃ log, Consistent ids log (takeCommand decode ids g c).1) ∧
        Confidential (owners ++ opened g c) (takeCommand decode ids g c).1 := by
    obtain ⟨⟨log, consistent⟩, confidential⟩ := inv
    exact ⟨⟨_, takeCommand_consistent consistent c⟩,
      takeCommand_confidential confidential consistent regular⟩
  have empty : Confidential [] .empty := by
    refine ⟨⟨rfl, ?_, ?_⟩, ?_, ?_⟩ <;> intros <;> contradiction
  have kept := Machine.run_logged (m := (gateway decode ids).logging opened) step
    (Machine.along_of_forall regular _) ⟨⟨[], empty_consistent⟩, empty⟩
  rw [Machine.logging_run] at kept
  exact kept.2

theorem owners_prefix {before : List Command} (start : before <+: cs) {queue : Nat} {userId : String}
    (own : (owners decode ids before)[queue]? = some userId) :
    (owners decode ids cs)[queue]? = some userId := by
  have grown : owners decode ids before <+: owners decode ids cs := Machine.log_mono start _
  obtain ⟨more, same⟩ := grown
  rw [← same, List.getElem?_append_left (List.getElem?_eq_some_iff.mp own).1]
  exact own

theorem stoodOn_concerns (regular : ∀ command ∈ cs, RegularCommand command) {queue : Nat}
    {userId : String} (own : (owners decode ids cs)[queue]? = some userId) {e : SseEvent}
    (stood : StoodOn decode ids cs queue e) :
    Concerns ((gateway decode ids).run .empty cs).1.requests userId e := by
  obtain ⟨before, content, start, here, mem⟩ := stood
  have confidential := run_confidential decode ids
    fun command mem => regular command (start.subset mem)
  have bound : queue < (owners decode ids before).length :=
    confidential.length ▸ (List.getElem?_eq_some_iff.mp here).1
  have same : (owners decode ids before)[queue]? = some userId := by
    have there := owners_prefix start (List.getElem?_eq_getElem bound)
    rw [List.getElem?_eq_getElem bound]
    exact there.symm.trans own
  have concerns := confidential.queues queue content userId here same e mem
  have kept : Kept ((gateway decode ids).run .empty before).1 ((gateway decode ids).run .empty cs).1 := by
    obtain ⟨later, rfl⟩ := start
    rw [Machine.run_append]
    exact run_kept (run_consistent decode ids before) later
  exact concerns.mono kept

end

/-! ## Pages -/

/-- The cards of a page are requests to its instructor. -/
def Addressed (requests : Requests) (userId : String)
    (cards : List Model.Dashboard.ApprovalRequest) : Prop :=
  ∀ card ∈ cards, ∃ request, requests card.requestId = some request ∧ request.instructorId = userId

section
variable {requests : Requests} {userId : String} {cards : List Model.Dashboard.ApprovalRequest}

theorem Addressed.resolve (addressed : Addressed requests userId cards) (requestId action : String) :
    Addressed requests userId (resolveRequest cards requestId action) := by
  intro card mem
  obtain ⟨old, before, same⟩ := List.mem_map.mp mem
  have named : card.requestId = old.requestId := by
    rw [← same]
    split <;> rfl
  rw [named]
  exact addressed old before

theorem Addressed.add (addressed : Addressed requests userId cards) {requestId : String}
    {request : Model.Gateway.ApprovalRequest} (found : requests requestId = some request)
    (own : request.instructorId = userId) (student : String) (context : Dict) :
    Addressed requests userId (addRequest cards requestId student context) := by
  unfold addRequest
  split
  · exact addressed
  · exact List.forall_mem_cons.mpr ⟨⟨request, found, own⟩, addressed⟩

theorem handleSSEMessage_addressed (addressed : Addressed requests userId cards) {event : SseEvent}
    (concerns : Concerns requests userId event) :
    Addressed requests userId (handleSSEMessage cards event) := by
  unfold handleSSEMessage
  split
  · rename_i type
    obtain ⟨requestId, request, found, names, own⟩ := concerns.request type
    rw [names]
    split
    · rename_i same _
      exact addressed.add (Json.str.inj same ▸ found) own _ _
    · exact addressed
  · split
    · split
      · exact addressed.resolve _ _
      · exact addressed
    · exact addressed

theorem takeInput_addressed (addressed : Addressed requests userId cards) {input : Input}
    (concerns : ∀ event, input = .message event → Concerns requests userId event) :
    Addressed requests userId (takeInput cards input) := by
  cases input with
  | message event => exact handleSSEMessage_addressed addressed (concerns event rfl)
  | answer call response =>
      cases response with
      | ok answer => exact addressed.resolve _ _
      | error refused => exact addressed

end

/-- Nobody is told of an approval that is not theirs: whatever ever stands on a queue that a user has
been connected to concerns that user, and a page that hears of it, and of whatever answers, shows only
requests to that user as their instructor. -/
theorem approvals_private (decode : Decode) (ids : FreshIds) (cs : List Command)
    (regular : ∀ command ∈ cs, RegularCommand command) (before : List Command) (start : before <+: cs)
    (userId : String) (queue : Nat)
    (connected : ((gateway decode ids).run .empty before).1.connections userId = some queue) :
    (∀ e, StoodOn decode ids cs queue e →
      Concerns ((gateway decode ids).run .empty cs).1.requests userId e) ∧
    ∀ inputs : List Input, (∀ e, .message e ∈ inputs → StoodOn decode ids cs queue e) →
      Addressed ((gateway decode ids).run .empty cs).1.requests userId
        (inputs.foldl takeInput []) := by
  have own : (owners decode ids cs)[queue]? = some userId := by
    have confidential := run_confidential decode ids
      fun command mem => regular command (start.subset mem)
    exact owners_prefix start (confidential.connections userId queue connected)
  have concerns (e : SseEvent) (stood : StoodOn decode ids cs queue e) :
      Concerns ((gateway decode ids).run .empty cs).1.requests userId e :=
    stoodOn_concerns regular own stood
  refine ⟨concerns, ?_⟩
  intro inputs heard
  suffices ∀ cards, Addressed ((gateway decode ids).run .empty cs).1.requests userId cards →
      Addressed ((gateway decode ids).run .empty cs).1.requests userId
        (inputs.foldl takeInput cards) from this [] fun card mem => by cases mem
  induction inputs with
  | nil => exact fun cards addressed => addressed
  | cons input inputs ih =>
      intro cards addressed
      apply ih fun e mem => heard e (List.mem_cons_of_mem _ mem)
      refine takeInput_addressed addressed ?_
      intro event same
      exact concerns event (heard event (same ▸ List.mem_cons_self))

/-! A student waits on an own queue while the instructor is asked and decides. -/

def watchedLog : List Command :=
  [.connect "S001", .connect "instructor_smith"] ++ created ++ [.resume 0, .resume 0,
    .arrive (.approval approveCall), .resume 1, .resume 1, .resume 1, .resume 1, .resume 1]

theorem student_hears_own :
    StoodOn plainTokens countedIds watchedLog 0 (resultEvent approveCall ⟨"instructor_smith", "instructor"⟩) ∧
    ∀ e, StoodOn plainTokens countedIds watchedLog 0 e →
      Concerns ((gateway plainTokens countedIds).run .empty watchedLog).1.requests "S001" e := by
  have regular : ∀ command ∈ watchedLog, RegularCommand command := by
    intro command mem
    simp only [watchedLog, created, List.cons_append, List.nil_append, List.mem_cons,
      List.not_mem_nil, or_false] at mem
    rcases mem with h | h | h | h | h | h | h | h | h | h | h | h <;> subst h <;> trivial
  exact ⟨⟨watchedLog, _, List.prefix_rfl, rfl, List.mem_cons_self⟩,
    (approvals_private plainTokens countedIds watchedLog regular [.connect "S001"] ⟨_, rfl⟩
      "S001" 0 rfl).1⟩

end RealityAI.Proof.Dashboard
