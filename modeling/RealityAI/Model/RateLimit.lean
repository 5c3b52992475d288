import RealityAI.Library.SlidingWindow
import RealityAI.Model.Gateway
import Mathlib.Algebra.Order.Field.Rat

/-!
# `middleware/rate_limit.py`

Python's `hash` is a parameter. Clock times are exact, and a request is handled at one time: nothing
is awaited between the check of a limit and the note of the request.
-/

namespace RealityAI.Model.RateLimit
open Library Gateway

structure Request where
  path : String
  authorization : Option String
  client : Option String

/-- The response of the middleware; `none` hands the request on. -/
structure Handled where
  time : Rat
  request : Request
  response : Option HttpException

def windowSeconds : Rat := 60

def getKey (hash : String → Int) (request : Request) : String :=
  let auth := request.authorization.getD ""
  if "Bearer ".toList.isPrefixOf auth.toList then "token:" ++ toString (hash auth)
  else "ip:" ++ request.client.getD "unknown"

/-- The requests of each key; a key that is missing has none. -/
abbrev Requests := String → List Rat

def isRateLimited (rpm : Int) (requests : Requests) (now : Rat) (key : String) : Bool × Requests :=
  let kept := recent windowSeconds now (requests key)
  if rpm ≤ kept.length then (true, Function.update requests key kept)
  else (false, Function.update requests key (kept ++ [now]))

structure Answer where
  time : Rat
  key : String
  limited : Bool
  deriving DecidableEq

def limiter (rpm : Int) : Machine Requests (Rat × String) Answer where
  step requests call :=
    let (limited, requests) := isRateLimited rpm requests call.1 call.2
    (requests, [⟨call.1, call.2, limited⟩])

def answers (rpm : Int) (calls : List (Rat × String)) : List Answer :=
  ((limiter rpm).run (fun _ => []) calls).2

def Request.isHealthCheck (request : Request) : Bool :=
  request.path = "/health" || request.path = "/"

def dispatch (hash : String → Int) (rpm : Int) (requests : Requests) (now : Rat)
    (request : Request) : Requests × Option HttpException :=
  if request.isHealthCheck then (requests, none)
  else
    let (limited, requests) := isRateLimited rpm requests now (getKey hash request)
    (requests, if limited then some ⟨429, "Rate limit exceeded. Try again later."⟩ else none)

def middleware (hash : String → Int) (rpm : Int) : Machine Requests (Rat × Request) Handled where
  step requests arrival :=
    let (requests, response) := dispatch hash rpm requests arrival.1 arrival.2
    (requests, [⟨arrival.1, arrival.2, response⟩])

def handled (hash : String → Int) (rpm : Int) (arrivals : List (Rat × Request)) : List Handled :=
  ((middleware hash rpm).run (fun _ => []) arrivals).2

/-- A request with a valid token of a user: `HTTPBearer` takes what follows the first space, however
the scheme is capitalised. -/
structure UserRequest (decode : Decode) (userId : String) extends Request where
  scheme : String
  token : String
  user : TokenData
  bearer : scheme.toLower = "bearer"
  carried : authorization = some (scheme ++ " " ++ token)
  valid : verifyToken decode token = .ok user
  subject : user.userId = userId

end RealityAI.Model.RateLimit
