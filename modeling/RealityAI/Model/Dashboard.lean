import RealityAI.Model.Gateway

/-!
# `web-dashboard`: the approval queue of an instructor

`useApprovals.ts` with the handlers of `InstructorDashboard.tsx`: a page of requests that is told of
events and of the answers to its own decisions. An event whose fields are not of the types that the
hook declares is left out.
-/

namespace RealityAI.Model.Dashboard
open Library Python Gateway

structure ApprovalRequest where
  requestId : String
  userId : String
  context : Dict
  status : String

def addRequest (requests : List ApprovalRequest) (requestId userId : String) (context : Dict) :
    List ApprovalRequest :=
  if requests.any (·.requestId = requestId) then requests
  else { requestId, userId, context, status := "pending" } :: requests

def resolveRequest (requests : List ApprovalRequest) (requestId action : String) :
    List ApprovalRequest :=
  requests.map fun r => if r.requestId = requestId then { r with status := action } else r

/-- `data.context || {}` -/
def contextOf (data : Dict) : Dict :=
  match Dict.get data "context" with
  | .obj context => context
  | _ => []

def handleSSEMessage (requests : List ApprovalRequest) (event : SseEvent) : List ApprovalRequest :=
  if event.eventType = "approval_request" then
    match Dict.get event.data "request_id", Dict.get event.data "user_id" with
    | .str requestId, .str userId => addRequest requests requestId userId (contextOf event.data)
    | _, _ => requests
  else if event.eventType = "approval_result" then
    match Dict.get event.data "request_id", Dict.get event.data "action" with
    | .str requestId, .str action => resolveRequest requests requestId action
    | _, _ => requests
  else requests

/-- What follows on the answer of the gateway; a refusal is thrown, and its card shows it. -/
def submitDecision (requests : List ApprovalRequest) (call : ApprovalCall) :
    Except HttpException ApprovalResponse → List ApprovalRequest
  | .ok _ => resolveRequest requests call.requestId call.body.action
  | .error _ => requests

inductive Input where
  | message (event : SseEvent)
  | answer (call : ApprovalCall) (response : Except HttpException ApprovalResponse)

def takeInput (requests : List ApprovalRequest) : Input → List ApprovalRequest
  | .message event => handleSSEMessage requests event
  | .answer call response => submitDecision requests call response

/-! ## A page on the queue of its instructor

`put` never waits on a queue without a bound, so here a call runs to its end before anything else
happens: it has at most two pushes of two turns each after its first turn. -/

inductive SerialCommand where
  | call (invocation : Invocation)
  | connect (userId : String)
  | disconnect (userId : String)
  | read (queue : Nat)

def SerialCommand.commands (g : ServerState) : SerialCommand → List Command
  | .call invocation => .arrive invocation :: List.replicate 5 (.resume g.coroutines.length)
  | .connect userId => [.connect userId]
  | .disconnect userId => [.disconnect userId]
  | .read queue => [.read queue]

structure Page where
  server : ServerState
  queue : Nat
  requests : List ApprovalRequest

inductive PageCommand where
  | server (command : SerialCommand)
  | message
  | answer (i : Nat)

def hear (page : Page) : Page :=
  match page.server.queues[page.queue]? with
  | some (event :: _) =>
      { page with
        server := { page.server with queues := page.server.queues.modify page.queue List.tail }
        requests := handleSSEMessage page.requests event }
  | _ => page

def receive (page : Page) (i : Nat) : Page :=
  match page.server.coroutines[i]? with
  | some ⟨.approval call, .finished (.approval response)⟩ =>
      { page with requests := submitDecision page.requests call response }
  | _ => page

section
variable (decode : Decode) (ids : FreshIds)

def serial : Machine ServerState SerialCommand SseEvent :=
  ⟨fun g command => (gateway decode ids).run g (command.commands g)⟩

def takePageCommand (page : Page) : PageCommand → Page
  | .server command => { page with server := ((serial decode ids).step page.server command).1 }
  | .message => hear page
  | .answer i => receive page i

def pageMachine : Machine Page PageCommand Empty :=
  ⟨fun page command => (takePageCommand decode ids page command, [])⟩

end

/-- A page opens with no requests, on the queue that `get_connection` gives its user. -/
def openPage (g : ServerState) (userId : String) : Page where
  server := getConnection g userId
  queue := ((getConnection g userId).connections userId).getD 0
  requests := []

end RealityAI.Model.Dashboard
