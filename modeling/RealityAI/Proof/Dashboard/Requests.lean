import RealityAI.Proof.Dashboard.Serial
import RealityAI.Proof.Gateway.Streams

namespace RealityAI.Proof.Dashboard
open Library Python Model.Gateway Model.Dashboard Proof.Gateway

def card (request : Model.Gateway.ApprovalRequest) : Model.Dashboard.ApprovalRequest :=
  ⟨request.requestId, request.userId, request.context, request.status⟩

def cardFor (ids : FreshIds) (g : ServerState) (userId : String) (k : Nat) :
    Option Model.Dashboard.ApprovalRequest :=
  ((g.requests (ids.uuid4 k)).filter (·.instructorId = userId)).map card

/-- The requests to an instructor from the `first`-th on, the newest one first. -/
def asked (ids : FreshIds) (g : ServerState) (userId : String) (first : Nat) :
    List Model.Dashboard.ApprovalRequest :=
  (List.range' first (g.drawn - first)).reverse.filterMap (cardFor ids g userId)

structure Stored (g : ServerState) : Prop where
  named : ∀ requestId request, g.requests requestId = some request → request.requestId = requestId
  queues : ∀ userId queue, g.connections userId = some queue → queue < g.queues.length
  apart : ∀ userId userId' queue, g.connections userId = some queue →
    g.connections userId' = some queue → userId = userId'

structure Sound (ids : FreshIds) (g : ServerState) : Prop where
  gateway : ∃ log, Consistent ids log g ∧ Announces log g
  stored : Stored g

section
variable {decode : Decode} {ids : FreshIds} {g g' : ServerState} {invocation : Invocation}

theorem Stored.of_same (stored : Stored g) (requests : g'.requests = g.requests)
    (connections : g'.connections = g.connections) (queues : g'.queues.length = g.queues.length) :
    Stored g' := by
  refine ⟨?_, ?_, ?_⟩
  · rw [requests]
    exact stored.named
  · rw [connections, queues]
    exact stored.queues
  · rw [connections]
    exact stored.apart

theorem Stored.update {requestId : String} {request : Model.Gateway.ApprovalRequest} (stored : Stored g)
    (named : request.requestId = requestId)
    (requests : g'.requests = Function.update g.requests requestId (some request))
    (connections : g'.connections = g.connections) (queues : g'.queues = g.queues) : Stored g' := by
  refine ⟨?_, ?_, ?_⟩
  · intro other found
    rw [requests]
    by_cases same : other = requestId
    · rw [same, Function.update_self]
      rintro ⟨⟩
      exact named
    · rw [Function.update_of_ne same]
      exact stored.named other found
  · rw [connections, queues]
    exact stored.queues
  · rw [connections]
    exact stored.apart

theorem Begins.stored {pushes : List Push} (begins : Begins ids g g' pushes) (stored : Stored g) :
    Stored g' := by
  cases begins with
  | quiet => exact stored
  | @decides call user request found _ _ =>
      have named : request.requestId = call.requestId := stored.named _ _ found
      have updated : (resolved request call).requestId = call.requestId := named
      exact stored.update updated rfl rfl rfl
  | creates _ _ => exact stored.update rfl rfl rfl rfl

theorem Stored.connect (stored : Stored g) (userId : String) : Stored (getConnection g userId) := by
  refine ⟨?_, getConnection_stored g userId stored.queues, ?_⟩
  · rw [(getConnection_same userId).1]
    exact stored.named
  · unfold getConnection
    cases connected : g.connections userId with
    | some _ => exact stored.apart
    | none =>
        -- the new queue has an index that no connection holds
        have new (other : String) : g.connections other ≠ some g.queues.length :=
          fun found => lt_irrefl _ (stored.queues other _ found)
        intro a b queue
        simp only [Function.update_apply]
        by_cases here : a = userId <;> by_cases there : b = userId
        · intro _ _
          rw [here, there]
        · simp only [here, there, if_true, if_false]
          rintro ⟨⟩ found
          exact absurd found (new b)
        · simp only [here, there, if_true, if_false]
          rintro found ⟨⟩
          exact absurd found (new a)
        · simp only [here, there, if_false]
          exact stored.apart a b queue

theorem Stored.disconnect (stored : Stored g) (userId : String) :
    Stored { g with connections := Function.update g.connections userId none } := by
  have kept {other : String} {queue : Nat}
      (found : Function.update g.connections userId none other = some queue) :
      g.connections other = some queue := by
    by_cases same : other = userId
    · rw [same, Function.update_self] at found
      cases found
    · rwa [Function.update_of_ne same] at found
  exact ⟨stored.named, fun other queue found => stored.queues other queue (kept found),
    fun a b queue found found' => stored.apart a b queue (kept found) (kept found')⟩

def RegularSerial : SerialCommand → Prop
  | .call invocation => Regular invocation
  | _ => True

theorem serial_stored {command : SerialCommand} (regular : RegularSerial command)
    (stored : Stored g) : Stored ((serial decode ids).step g command).1 := by
  cases command with
  | call invocation =>
      obtain ⟨g', pushes, answer, begins, after⟩ := serial_call decode ids g regular
      obtain ⟨requests, connections, -, queues⟩ := pushAll_same (g := g') pushes
      have begun : Stored g' := begins.stored ⟨stored.named, stored.queues, stored.apart⟩
      rw [after]
      exact begun.of_same requests connections queues
  | connect userId => exact stored.connect userId
  | disconnect userId => exact stored.disconnect userId
  | read queue => exact stored.of_same rfl rfl (List.length_modify ..)

variable (decode) in
theorem serial_sound (command : SerialCommand) (regular : RegularSerial command)
    (sound : Sound ids g) : Sound ids ((serial decode ids).step g command).1 := by
  refine ⟨?_, serial_stored regular sound.stored⟩
  obtain ⟨log, inv⟩ := sound.gateway
  have each : ∀ c ∈ command.commands g, RegularCommand c := by
    intro c mem
    cases command with
    | call invocation =>
        rcases List.mem_cons.mp mem with same | turn
        · rw [same]
          exact regular
        · rw [List.eq_of_mem_replicate turn]
          trivial
    | _ =>
        rw [List.mem_singleton.mp mem]
        trivial
  exact ⟨_, both_kept decode ids (Machine.along_of_forall each g) inv⟩

theorem empty_sound : Sound ids .empty := by
  refine ⟨⟨[], empty_consistent, ?_⟩, ?_⟩
  · constructor <;> intro _ mem <;> cases mem
  · constructor <;> intros <;> contradiction

variable {userId : String} {first : Nat}

theorem asked_congr (requests : g'.requests = g.requests) (drawn : g'.drawn = g.drawn) :
    asked ids g' userId first = asked ids g userId first := by
  unfold asked
  rw [drawn]
  congr 1
  funext k
  rw [cardFor, cardFor, requests]

theorem mem_asked {r : Model.Dashboard.ApprovalRequest} (stored : Stored g)
    (mem : r ∈ asked ids g userId first) : ∃ k request, first ≤ k ∧ k < g.drawn ∧
      r.requestId = ids.uuid4 k ∧ g.requests r.requestId = some request ∧
      request.instructorId = userId ∧ r = card request := by
  obtain ⟨k, member, made⟩ := List.mem_filterMap.mp mem
  rw [List.mem_reverse, List.mem_range'_1] at member
  obtain ⟨request, kept, same⟩ := Option.map_eq_some_iff.mp made
  obtain ⟨found, mine⟩ := Option.filter_eq_some_iff.mp kept
  have named : r.requestId = ids.uuid4 k := by
    rw [← same]
    exact stored.named _ _ found
  refine ⟨k, request, member.1, by omega, named, named ▸ found, of_decide_eq_true mine, same.symm⟩

theorem cardFor_some {k : Nat} {request : Model.Gateway.ApprovalRequest}
    (found : g.requests (ids.uuid4 k) = some request) : cardFor ids g userId k =
      if request.instructorId = userId then some (card request) else none := by
  rw [cardFor, found, Option.filter]
  by_cases mine : request.instructorId = userId <;> simp [mine]

theorem asked_created {request : Model.Gateway.ApprovalRequest} (start : first ≤ g.drawn)
    (drawn : request.requestId = ids.uuid4 g.drawn) :
    asked ids (createdState g request) userId first =
      if request.instructorId = userId then card request :: asked ids g userId first
      else asked ids g userId first := by
  have more : g.drawn + 1 - first = (g.drawn - first) + 1 := by omega
  have last : first + (g.drawn - first) = g.drawn := by omega
  have new : cardFor ids (createdState g request) userId g.drawn =
      if request.instructorId = userId then some (card request) else none := by
    apply cardFor_some
    show Function.update g.requests request.requestId _ _ = _
    rw [drawn, Function.update_self]
  have old : (List.range' first (g.drawn - first)).reverse.filterMap
      (cardFor ids (createdState g request) userId) = asked ids g userId first := by
    apply List.filterMap_congr
    intro k mem
    rw [List.mem_reverse, List.mem_range'_1] at mem
    have other : ids.uuid4 k ≠ request.requestId := by
      rw [drawn]
      intro same
      have := ids.distinct same
      omega
    simp only [cardFor, createdState, Function.update_of_ne other]
  rw [asked, show (createdState g request).drawn - first = _ from more, List.range'_1_concat, last,
    List.reverse_append, List.reverse_singleton, List.singleton_append, List.filterMap_cons, new, old]
  by_cases mine : request.instructorId = userId <;> simp [mine]

theorem asked_resolved {call : ApprovalCall} {request : Model.Gateway.ApprovalRequest}
    (stored : Stored g) (found : g.requests call.requestId = some request) :
    asked ids (resolvedState g request call) userId first =
      resolveRequest (asked ids g userId first) call.requestId call.body.action := by
  rw [asked, asked, resolveRequest, List.map_filterMap]
  apply List.filterMap_congr
  intro k _
  by_cases same : ids.uuid4 k = call.requestId
  · have after : (resolvedState g request call).requests (ids.uuid4 k) =
        some (resolved request call) := by
      rw [same]
      exact Function.update_self ..
    have named : request.requestId = call.requestId := stored.named _ _ found
    rw [cardFor_some after, cardFor_some (same ▸ found)]
    by_cases mine : request.instructorId = userId <;> simp [resolved, card, mine, named]
  · have after : (resolvedState g request call).requests (ids.uuid4 k) = g.requests (ids.uuid4 k) :=
      Function.update_of_ne same _ _
    cases here : g.requests (ids.uuid4 k) with
    | none => rw [cardFor, cardFor, after, here]; rfl
    | some other =>
        have named : other.requestId = ids.uuid4 k := stored.named _ _ here
        rw [cardFor_some (after.trans here), cardFor_some here]
        by_cases mine : other.instructorId = userId <;> simp [card, mine, named, same]

theorem resolveRequest_same {requests : List Model.Dashboard.ApprovalRequest} {requestId action : String}
    (same : ∀ r ∈ requests, r.requestId = requestId → r.status = action) :
    resolveRequest requests requestId action = requests := by
  rw [resolveRequest]
  conv_rhs => rw [← List.map_id requests]
  apply List.map_congr_left
  intro r mem
  by_cases here : r.requestId = requestId
  · rw [if_pos here, ← same r mem here]
    rfl
  · rw [if_neg here]
    rfl

theorem asked_recorded {requestId action : String} (stored : Stored g)
    (recorded : statusOf g requestId = some action) :
    resolveRequest (asked ids g userId first) requestId action = asked ids g userId first := by
  apply resolveRequest_same
  intro r mem same
  obtain ⟨k, request, -, -, -, found, -, made⟩ := mem_asked stored mem
  rw [statusOf, ← same, found] at recorded
  rw [made]
  exact Option.some.inj recorded

end

end RealityAI.Proof.Dashboard
