import RealityAI.Library.Run

/-!
# `hooks/useChat.ts`

A send runs to its `await`s: of `fetch`, and of `res.json()`. What it awaits settles at any time, and
the send goes on at any time after that, with its `catch` and `finally` in one piece. The updates of
React's state take effect in their order, so the state is the one after the last of them. A send's
number stands for its `AbortController`.
-/

namespace RealityAI.Model.ChatHook
open Library

inductive Role where
  | user | assistant
  deriving DecidableEq, Repr

structure ChatMessage where
  role : Role
  content : String
  intent : Option String := none
  agent : Option String := none
  deriving DecidableEq, Repr

structure ChatRequest where
  authorization : String
  message : String
  sessionId : Option String
  deriving DecidableEq, Repr

structure ChatData where
  response : String
  intent : Option String := none
  selectedAgent : Option String := none
  deriving DecidableEq, Repr

inductive ChatError where
  | abortError | typeError | syntaxError
  | error (message : String)
  deriving DecidableEq, Repr

def ChatError.name : ChatError → String
  | .abortError => "AbortError"
  | .typeError => "TypeError"
  | .syntaxError => "SyntaxError"
  | .error _ => "Error"

inductive Phase where
  | fetching
  -- the promise of `fetch` is fulfilled
  | responded (status : Nat)
  | reading
  -- the awaited promise has left nothing but the end of the send
  | settled (outcome : Except ChatError ChatData)
  | finished
  deriving DecidableEq

structure Send where
  aborted : Bool
  phase : Phase
  deriving DecidableEq

structure HookState where
  messages : List ChatMessage
  isLoading : Bool
  abortRef : Option Nat
  sends : List Send

def HookState.idle : HookState := ⟨[], false, none, []⟩

/-! ## `sendMessage` -/

/-- Character of `String.prototype.trim`. -/
def isWhiteSpace (c : Char) : Bool :=
  c.toNat ∈ [0x9, 0xA, 0xB, 0xC, 0xD, 0x20, 0xA0, 0x1680, 0x2028, 0x2029, 0x202F, 0x205F, 0x3000,
    0xFEFF] || (0x2000 ≤ c.toNat && c.toNat ≤ 0x200A)

def trim (s : String) : String :=
  String.ofList (((s.toList.dropWhile isWhiteSpace).reverse.dropWhile isWhiteSpace).reverse)

/-- A pending `fetch` rejects at once. A body that is being read may have arrived before. -/
def Send.abort (send : Send) : Send :=
  match send.phase with
  | .fetching => ⟨true, .settled (.error .abortError)⟩
  | phase => ⟨true, phase⟩

def HookState.abortCurrent (s : HookState) : HookState :=
  match s.abortRef with
  | some i => { s with sends := s.sends.modify i Send.abort }
  | none => s

def sendMessage (s : HookState) (token sessionId : Option String) (content : String) :
    HookState × List ChatRequest :=
  let token := token.getD ""
  if token = "" ∨ trim content = "" then (s, [])
  else
    let userMsg : ChatMessage := { role := .user, content := trim content }
    let s := { s with messages := s.messages ++ [userMsg], isLoading := true }
    let s := s.abortCurrent
    ({ s with abortRef := some s.sends.length, sends := s.sends ++ [⟨false, .fetching⟩] },
      [{ authorization := "Bearer " ++ token, message := trim content, sessionId }])

def Send.fetched (send : Send) (result : Except ChatError Nat) : Send :=
  match send.phase, result with
  | .fetching, .ok status => { send with phase := .responded status }
  | .fetching, .error err =>
      if err = .abortError then send else { send with phase := .settled (.error err) }
  | _, _ => send

def Send.read (send : Send) (result : Except ChatError ChatData) : Send :=
  match send.phase, result with
  | .reading, .ok data => { send with phase := .settled (.ok data) }
  | .reading, .error err =>
      if err = .abortError ∧ send.aborted = false then send
      else { send with phase := .settled (.error err) }
  | _, _ => send

def ok (status : Nat) : Bool := 200 ≤ status && status ≤ 299

def assistantMsg (data : ChatData) : ChatMessage where
  role := .assistant
  content := data.response
  intent := data.intent
  agent := data.selectedAgent

def errorMsg : ChatMessage where
  role := .assistant
  content := "Sorry, I'm having trouble connecting right now. Please try again."

def caught (err : ChatError) : List ChatMessage :=
  if err.name = "AbortError" then [] else [errorMsg]

def answered : Except ChatError ChatData → List ChatMessage
  | .ok data => [assistantMsg data]
  | .error err => caught err

def Send.close (send : Send) : Send := { send with phase := .finished }

/-- The `finally` block of a send, after the messages that it adds. -/
def HookState.finish (s : HookState) (i : Nat) (added : List ChatMessage) : HookState where
  messages := s.messages ++ added
  isLoading := false
  abortRef := none
  sends := s.sends.modify i Send.close

def Send.readBody (send : Send) : Send := { send with phase := .reading }

def HookState.resume (s : HookState) (i : Nat) : HookState :=
  match s.sends[i]? with
  | none => s
  | some send =>
      match send.phase with
      | .responded status =>
          if ok status then { s with sends := s.sends.modify i Send.readBody }
          else s.finish i (caught (.error s!"Chat request failed: {status}"))
      | .settled outcome => s.finish i (answered outcome)
      | _ => s

def clearMessages (s : HookState) : HookState := { s with messages := [] }

inductive HookCommand where
  | send (token sessionId : Option String) (content : String)
  | fetched (i : Nat) (result : Except ChatError Nat)
  | read (i : Nat) (result : Except ChatError ChatData)
  | resume (i : Nat)
  | clearMessages

def takeHookCommand (s : HookState) : HookCommand → HookState × List ChatRequest
  | .send token sessionId content => sendMessage s token sessionId content
  | .fetched i result => ({ s with sends := s.sends.modify i fun send => send.fetched result }, [])
  | .read i result => ({ s with sends := s.sends.modify i fun send => send.read result }, [])
  | .resume i => (s.resume i, [])
  | .clearMessages => (clearMessages s, [])

def chat : Machine HookState HookCommand ChatRequest := ⟨takeHookCommand⟩

end RealityAI.Model.ChatHook
