import RealityAI.Library.Run
import RealityAI.Python.Value
import Mathlib.Logic.Function.Basic

/-!
# `auth/jwt.py`, `routes/sse.py` and `routes/approval.py`: approvals over the gateway

A call is a coroutine that others can overtake only at an `await`: before it starts, before a push
looks for the connection of its user, and before it puts the event into that queue. The decoding of
tokens is a parameter, and so are the fresh ids of `uuid.uuid4`. The data of an event are kept as
they are before `json.dumps`.
-/

namespace RealityAI.Model.Gateway
open Library Python

structure HttpException where
  statusCode : Nat
  detail : String
  deriving DecidableEq, Repr

/-! ## `auth/jwt.py` -/

structure TokenData where
  userId : String
  role : String
  deriving DecidableEq, Repr

/-- `jwt.decode` with the secret key: the claims of a valid token, or the text of the `JWTError`. -/
abbrev Decode := String → Except String Dict

def verifyToken (decode : Decode) (token : String) : Except HttpException TokenData :=
  match decode token with
  | .error e => .error ⟨401, "Invalid token: " ++ e⟩
  | .ok payload =>
      match Dict.get payload "sub", (Dict.get? payload "role").getD (.str "student") with
      | .null, _ => .error ⟨401, "Invalid token: missing subject"⟩
      | .str userId, .str role => .ok ⟨userId, role⟩
      -- `TokenData` refuses the claims
      | _, _ => .error ⟨500, "Internal Server Error"⟩

/-! ## The stores of `routes/sse.py` -/

structure ApprovalRequest where
  requestId : String
  userId : String
  instructorId : String
  context : Dict
  status : String

structure SseEvent where
  eventType : String
  data : Dict

structure Push where
  userId : String
  event : SseEvent

/-! ## Calls -/

structure ApprovalAction where
  action : String
  reason : String := ""

structure ApprovalCall where
  requestId : String
  body : ApprovalAction
  token : String

structure ApprovalResponse where
  requestId : String
  status : String
  message : String
  deriving DecidableEq, Repr

/-- A push from elsewhere in the gateway; results are only pushed by `handle_approval`. -/
structure OtherPush extends Push where
  other : event.eventType ≠ "approval_result"

inductive Invocation where
  | approval (call : ApprovalCall)
  | create (userId instructorId : String) (context : Dict)
  | push (push : OtherPush)

inductive Answer where
  | approval (response : Except HttpException ApprovalResponse)
  | created (requestId : String)
  | pushed

/-- Where a coroutine waits, with the pushes that are left and what it will return. -/
inductive Position where
  | ready
  | push (push : Push) (later : List Push) (answer : Answer)
  | put (queue : Nat) (event : SseEvent) (later : List Push) (answer : Answer)
  | finished (answer : Answer)

structure Coroutine where
  invocation : Invocation
  position : Position

/-- `queues` are the queue objects, of which `connections` holds the current one of a user. -/
structure ServerState where
  requests : String → Option ApprovalRequest
  connections : String → Option Nat
  queues : List (List SseEvent)
  coroutines : List Coroutine
  drawn : Nat

def ServerState.empty : ServerState := ⟨fun _ => none, fun _ => none, [], [], 0⟩

structure FreshIds where
  uuid4 : Nat → String
  distinct : Function.Injective uuid4

def next (answer : Answer) : List Push → Position
  | [] => .finished answer
  | p :: later => .push p later answer

/-! ## The statements up to the next `await` -/

def resolveApprovalRequest (g : ServerState) (request : ApprovalRequest) (requestId action : String) :
    ServerState × ApprovalRequest :=
  let resolved := { request with status := action }
  ({ g with requests := Function.update g.requests requestId (some resolved) }, resolved)

def resultEvent (call : ApprovalCall) (user : TokenData) : SseEvent where
  eventType := "approval_result"
  data := [("request_id", .str call.requestId), ("action", .str call.body.action),
    ("reason", .str call.body.reason), ("resolved_by", .str user.userId)]

def approvalResponse (call : ApprovalCall) (user : TokenData) : ApprovalResponse where
  requestId := call.requestId
  status := call.body.action
  message := "Operation " ++ (if call.body.action = "approve" then "approved" else "rejected") ++
    " by " ++ user.userId

def refuse (g : ServerState) (statusCode : Nat) (detail : String) : ServerState × Position :=
  (g, .finished (.approval (.error ⟨statusCode, detail⟩)))

def handleApproval (g : ServerState) (user : TokenData) (call : ApprovalCall) : ServerState × Position :=
  let action := call.body.action
  if action ≠ "approve" ∧ action ≠ "reject" then
    refuse g 400 "Action must be 'approve' or 'reject'"
  else match g.requests call.requestId with
    | none => refuse g 404 "Approval request not found"
    | some request =>
        if request.status ≠ "pending" then refuse g 409 ("Request already " ++ request.status)
        else
          let (g, resolved) := resolveApprovalRequest g request call.requestId action
          let event := resultEvent call user
          (g, next (.approval (.ok (approvalResponse call user)))
            [⟨resolved.userId, event⟩, ⟨resolved.instructorId, event⟩])

def createApprovalRequest (ids : FreshIds) (g : ServerState) (userId instructorId : String)
    (context : Dict) : ServerState × Position :=
  let requestId := ids.uuid4 g.drawn
  let request := { requestId, userId, instructorId, context, status := "pending" }
  let event : SseEvent :=
    { eventType := "approval_request"
      data := [("request_id", .str requestId), ("user_id", .str userId), ("context", .obj context)] }
  ({ g with requests := Function.update g.requests requestId (some request), drawn := g.drawn + 1 },
    next (.created requestId) [⟨instructorId, event⟩])

section
variable (decode : Decode) (ids : FreshIds)

def begin (g : ServerState) : Invocation → ServerState × Position
  | .approval call =>
      match verifyToken decode call.token with
      | .error e => refuse g e.statusCode e.detail
      | .ok user => handleApproval g user call
  | .create userId instructorId context => createApprovalRequest ids g userId instructorId context
  | .push p => (g, next .pushed [p.toPush])

def turn (g : ServerState) (c : Coroutine) : ServerState × Position × Option SseEvent :=
  match c.position with
  | .ready =>
      let (g, position) := begin decode ids g c.invocation
      (g, position, none)
  | .push p later answer =>
      match g.connections p.userId with
      | some queue => (g, .put queue p.event later answer, none)
      | none => (g, next answer later, none)
  | .put queue event later answer =>
      ({ g with queues := g.queues.modify queue (· ++ [event]) }, next answer later, some event)
  | .finished answer => (g, .finished answer, none)

inductive Command where
  | arrive (invocation : Invocation)
  | resume (i : Nat)
  | connect (userId : String)
  | disconnect (userId : String)
  | read (queue : Nat)

def getConnection (g : ServerState) (userId : String) : ServerState :=
  match g.connections userId with
  | some _ => g
  | none =>
      { g with
        connections := Function.update g.connections userId (some g.queues.length)
        queues := g.queues ++ [[]] }

def takeCommand (g : ServerState) : Command → ServerState × List SseEvent
  | .arrive invocation => ({ g with coroutines := g.coroutines ++ [⟨invocation, .ready⟩] }, [])
  | .resume i =>
      match g.coroutines[i]? with
      | none => (g, [])
      | some c =>
          let (g', position, event) := turn decode ids g c
          ({ g' with coroutines := g.coroutines.set i { c with position } }, event.toList)
  | .connect userId => (getConnection g userId, [])
  | .disconnect userId =>
      ({ g with connections := Function.update g.connections userId none }, [])
  | .read queue => ({ g with queues := g.queues.modify queue List.tail }, [])

def gateway : Machine ServerState Command SseEvent := ⟨takeCommand decode ids⟩

end

end RealityAI.Model.Gateway
