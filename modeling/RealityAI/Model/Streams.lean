import RealityAI.Model.Gateway

/-!
# `routes/sse.py`: the event streams

A stream is the generator behind one `GET /sse/events`. Others can overtake it, and its client can
leave, before it starts, while it waits in `queue.get()` and while the response sends what it has
yielded. `put` never waits on a queue without a bound, so nothing happens within a push.
-/

namespace RealityAI.Model.Gateway
open Library

inductive StreamPosition where
  | starting | waiting | sending | closed
  deriving DecidableEq, Repr

structure EventStream where
  userId : String
  queue : Nat
  position : StreamPosition

def EventStream.IsOpen (stream : EventStream) : Prop := stream.position ≠ .closed

structure StreamState where
  server : ServerState
  streams : List EventStream

def StreamState.empty : StreamState := ⟨.empty, []⟩

def removeConnection (g : ServerState) (userId : String) : ServerState :=
  { g with connections := Function.update g.connections userId none }

/-- The log of a push holds the queue that has got the event. -/
def pushEvent (g : ServerState) (p : Push) : ServerState × List (Nat × SseEvent) :=
  match g.connections p.userId with
  | some queue =>
      ({ g with queues := g.queues.modify queue (· ++ [p.event]) }, [(queue, p.event)])
  | none => (g, [])

def sseEvents (s : StreamState) (userId : String) : StreamState :=
  let server := getConnection s.server userId
  match server.connections userId with
  | some queue => ⟨server, s.streams ++ [⟨userId, queue, .starting⟩]⟩
  -- `get_connection` returns the queue that it has just stored
  | none => ⟨server, s.streams⟩

def eventGenerator (s : StreamState) (i : Nat) (stream : EventStream) : StreamState :=
  match s.server.queues[stream.queue]? with
  | some (_ :: later) =>
      ⟨{ s.server with queues := s.server.queues.set stream.queue later },
        s.streams.set i { stream with position := .sending }⟩
  | _ => { s with streams := s.streams.set i { stream with position := .waiting } }

/-- The generator only catches a cancellation of its `queue.get()`. -/
def cancelStream (s : StreamState) (i : Nat) (stream : EventStream) : StreamState where
  server := if stream.position = .waiting then removeConnection s.server stream.userId else s.server
  streams := s.streams.set i { stream with position := .closed }

inductive StreamCommand where
  | «open» (userId : String)
  | resume (i : Nat)
  | cancel (i : Nat)
  | push (p : Push)

def takeStreamCommand (s : StreamState) : StreamCommand → StreamState × List (Nat × SseEvent)
  | .open userId => (sseEvents s userId, [])
  | .resume i =>
      match s.streams[i]? with
      | none => (s, [])
      | some stream =>
          (if stream.position = .closed then s else eventGenerator s i stream, [])
  | .cancel i =>
      match s.streams[i]? with
      | none => (s, [])
      | some stream => (if stream.position = .closed then s else cancelStream s i stream, [])
  | .push p =>
      let (server, puts) := pushEvent s.server p
      ({ s with server }, puts)

def sse : Machine StreamState StreamCommand (Nat × SseEvent) := ⟨takeStreamCommand⟩

end RealityAI.Model.Gateway
