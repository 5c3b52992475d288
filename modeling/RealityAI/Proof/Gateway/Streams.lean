import RealityAI.Model.Streams

namespace RealityAI.Proof.Gateway
open Library Python Model.Gateway

def Reads (s : StreamState) (userId : String) (queue : Nat) : Prop :=
  ∃ stream ∈ s.streams, stream.IsOpen ∧ stream.userId = userId ∧ stream.queue = queue

/-- The event stands on a queue that an open stream of its user reads. -/
def PushKept (s : StreamState) (p : Push) : Prop :=
  (∃ stream ∈ s.streams, stream.IsOpen ∧ stream.userId = p.userId) →
    ∃ queue items, s.server.queues[queue]? = some items ∧
      (sse.step s (.push p)).2 = [(queue, p.event)] ∧
      (sse.step s (.push p)).1.server.queues[queue]? = some (items ++ [p.event]) ∧
      Reads (sse.step s (.push p)).1 p.userId queue

/-- Pushes go on to reach the queue of every other open stream of the user. -/
def CloseKept (s : StreamState) (i : Nat) : Prop :=
  ∀ stream, s.streams[i]? = some stream → ∀ j other, j ≠ i → s.streams[j]? = some other →
    other.IsOpen → other.userId = stream.userId →
    (sse.step s (.cancel i)).1.server.connections other.userId = some other.queue

def StreamsKept (s : StreamState) : StreamCommand → Prop
  | .push p => PushKept s p
  | .cancel i => CloseKept s i
  | _ => True

/-- A stream that is cancelled while it waits for an event is the only open stream of its user. -/
def ClosedAlone (s : StreamState) : StreamCommand → Prop
  | .cancel i => ∀ stream, s.streams[i]? = some stream → stream.position = .waiting →
      ∀ j other, j ≠ i → s.streams[j]? = some other → other.userId = stream.userId → ¬ other.IsOpen
  | _ => True

structure Connected (s : StreamState) : Prop where
  stored : ∀ userId queue, s.server.connections userId = some queue → queue < s.server.queues.length
  reads : ∀ stream ∈ s.streams, stream.IsOpen →
    s.server.connections stream.userId = some stream.queue

section
variable {s : StreamState} {i : Nat} {stream : EventStream}

theorem step_resume (here : s.streams[i]? = some stream) : (sse.step s (.resume i)).1 =
    if stream.position = .closed then s else eventGenerator s i stream := by
  simp only [sse, takeStreamCommand, here]

theorem step_cancel (here : s.streams[i]? = some stream) : (sse.step s (.cancel i)).1 =
    if stream.position = .closed then s else cancelStream s i stream := by
  simp only [sse, takeStreamCommand, here]

theorem step_lost (gone : s.streams[i]? = none) :
    (sse.step s (.resume i)).1 = s ∧ (sse.step s (.cancel i)).1 = s := by
  simp only [sse, takeStreamCommand, gone, and_self]

theorem connected_empty : Connected .empty := ⟨nofun, nofun⟩

theorem getConnection_stored (g : ServerState) (userId : String)
    (stored : ∀ userId queue, g.connections userId = some queue → queue < g.queues.length) :
    ∀ userId' queue, (getConnection g userId).connections userId' = some queue →
      queue < (getConnection g userId).queues.length := by
  intro userId' queue found
  unfold getConnection at found ⊢
  cases here : g.connections userId with
  | some _ =>
      simp only [here] at found ⊢
      exact stored userId' queue found
  | none =>
      simp only [here] at found ⊢
      rw [List.length_append, List.length_singleton]
      by_cases same : userId' = userId
      · rw [same, Function.update_self] at found
        cases found
        exact Nat.lt_succ_self _
      · rw [Function.update_of_ne same] at found
        exact Nat.lt_succ_of_lt (stored userId' queue found)

theorem getConnection_keeps (g : ServerState) (userId : String) {userId' : String} {queue : Nat}
    (found : g.connections userId' = some queue) :
    (getConnection g userId).connections userId' = some queue := by
  unfold getConnection
  cases here : g.connections userId with
  | some _ => exact found
  | none =>
      have other : userId' ≠ userId := by
        intro same
        rw [same, here] at found
        cases found
      exact (Function.update_of_ne other _ _).trans found

theorem connected_open (userId : String) (inv : Connected s) : Connected (sseEvents s userId) := by
  unfold sseEvents
  cases found : (getConnection s.server userId).connections userId with
  | none =>
      simp only [found]
      refine ⟨getConnection_stored s.server userId inv.stored, ?_⟩
      intro stream mem live
      exact getConnection_keeps s.server userId (inv.reads stream mem live)
  | some queue =>
      simp only [found]
      refine ⟨getConnection_stored s.server userId inv.stored, ?_⟩
      intro stream mem live
      rcases List.mem_append.mp mem with earlier | new
      · exact getConnection_keeps s.server userId (inv.reads stream earlier live)
      · cases List.mem_singleton.mp new
        exact found

theorem connected_generator (here : s.streams[i]? = some stream) (live : stream.IsOpen)
    (inv : Connected s) : Connected (eventGenerator s i stream) := by
  have mem : stream ∈ s.streams := List.mem_of_getElem? here
  have moved (position : StreamPosition) :
      ∀ other ∈ s.streams.set i { stream with position }, other.IsOpen →
        s.server.connections other.userId = some other.queue := by
    intro other member otherLive
    rcases List.mem_or_eq_of_mem_set member with earlier | same
    · exact inv.reads other earlier otherLive
    · subst same
      exact inv.reads stream mem live
  unfold eventGenerator
  cases content : s.server.queues[stream.queue]? with
  | none => exact ⟨inv.stored, moved .waiting⟩
  | some items =>
      cases items with
      | nil => exact ⟨inv.stored, moved .waiting⟩
      | cons event later =>
          refine ⟨?_, moved .sending⟩
          intro userId queue found
          have before := inv.stored userId queue found
          simpa using before

theorem connected_cancel (here : s.streams[i]? = some stream)
    (alone : ClosedAlone s (.cancel i)) (inv : Connected s) :
    Connected (cancelStream s i stream) := by
  have others {other : EventStream}
      (member : other ∈ s.streams.set i { stream with position := .closed })
      (live : other.IsOpen) : ∃ j, j ≠ i ∧ s.streams[j]? = some other := by
    obtain ⟨j, found⟩ := List.mem_iff_getElem?.mp member
    by_cases same : j = i
    · subst same
      have bound : j < s.streams.length := (List.getElem?_eq_some_iff.mp here).1
      rw [List.getElem?_set_self bound] at found
      cases found
      exact absurd rfl live
    · rw [List.getElem?_set_ne (Ne.symm same)] at found
      exact ⟨j, same, found⟩
  unfold cancelStream
  -- Only a stream that waits in `queue.get()` takes the connection of its user with it.
  by_cases waiting : stream.position = .waiting
  · rw [if_pos waiting]
    constructor
    · intro userId queue found
      by_cases same : userId = stream.userId
      · simp [removeConnection, same] at found
      · apply inv.stored userId queue
        simpa [removeConnection, same] using found
    · intro other member live
      obtain ⟨j, ne, found⟩ := others member live
      have apart : other.userId ≠ stream.userId :=
        fun same => alone stream here waiting j other ne found same live
      have connected := inv.reads other (List.mem_of_getElem? found) live
      simpa [removeConnection, apart] using connected
  · rw [if_neg waiting]
    refine ⟨inv.stored, ?_⟩
    intro other member live
    obtain ⟨j, -, found⟩ := others member live
    exact inv.reads other (List.mem_of_getElem? found) live

theorem connected_push (p : Push) (inv : Connected s) : Connected (sse.step s (.push p)).1 := by
  show Connected { s with server := (pushEvent s.server p).1 }
  unfold pushEvent
  cases found : s.server.connections p.userId with
  | none => exact ⟨inv.stored, inv.reads⟩
  | some queue =>
      refine ⟨?_, inv.reads⟩
      intro userId queue' connected
      have before := inv.stored userId queue' connected
      simpa using before

theorem connected_step (s : StreamState) (c : StreamCommand) (alone : ClosedAlone s c)
    (inv : Connected s) : Connected (sse.step s c).1 := by
  cases c with
  | «open» userId => exact connected_open userId inv
  | push p => exact connected_push p inv
  | resume i =>
      cases here : s.streams[i]? with
      | none =>
          rw [(step_lost here).1]
          exact inv
      | some stream =>
          rw [step_resume here]
          split
          · exact inv
          · rename_i live
            exact connected_generator here live inv
  | cancel i =>
      cases here : s.streams[i]? with
      | none =>
          rw [(step_lost here).2]
          exact inv
      | some stream =>
          rw [step_cancel here]
          split
          · exact inv
          · exact connected_cancel here alone inv

theorem pushKept_of_connected (inv : Connected s) (p : Push) : PushKept s p := by
  intro ⟨stream, mem, live, named⟩
  have connected : s.server.connections p.userId = some stream.queue :=
    named ▸ inv.reads stream mem live
  have bound := inv.stored _ _ connected
  have pushed : pushEvent s.server p =
      ({ s.server with queues := s.server.queues.modify stream.queue (· ++ [p.event]) },
        [(stream.queue, p.event)]) := by
    unfold pushEvent
    rw [connected]
  refine ⟨stream.queue, s.server.queues[stream.queue], List.getElem?_eq_getElem bound, ?_, ?_, ?_⟩
  · show (pushEvent s.server p).2 = _
    rw [pushed]
  · show (pushEvent s.server p).1.queues[stream.queue]? = _
    rw [pushed]
    simp [bound]
  · exact ⟨stream, mem, live, named, rfl⟩

theorem closeKept_of_connected (inv : Connected s) (alone : ClosedAlone s (.cancel i)) :
    CloseKept s i := by
  intro stream here j other ne found live named
  have after := connected_step s (.cancel i) alone inv
  apply after.reads other ?_ live
  rw [step_cancel here]
  split
  · exact List.mem_of_getElem? found
  · apply List.mem_of_getElem? (i := j)
    exact (List.getElem?_set_ne (Ne.symm ne)).trans found

theorem closedAlone_of_kept {c : StreamCommand} (kept : StreamsKept s c) : ClosedAlone s c := by
  cases c with
  | «open» userId => trivial
  | resume i => trivial
  | push p => trivial
  | cancel i =>
      intro stream here waiting j other ne found named live
      have connected := kept stream here j other ne found live named
      simp [step_cancel here, waiting, cancelStream, removeConnection, named] at connected

end

/-- No event of a user with an open stream is orphaned in exactly the runs in which no stream is
cancelled in its `queue.get()` beside another open stream of its user. -/
theorem streams_kept_iff (cs : List StreamCommand) :
    sse.Along StreamsKept .empty cs ↔ sse.Along ClosedAlone .empty cs := by
  constructor
  · intro kept
    exact kept.mono fun s c => closedAlone_of_kept
  · intro alone
    rw [Machine.along_iff] at alone ⊢
    intro before c start
    have inv : Connected (sse.run .empty before).1 := by
      apply Machine.run_invariant connected_step ?_ connected_empty
      rw [Machine.along_iff]
      intro earlier c' start'
      exact alone earlier c' (start'.trans ((List.prefix_append _ _).trans start))
    have here := alone before c start
    cases c with
    | «open» userId => trivial
    | resume i => trivial
    | push p => exact pushKept_of_connected inv p
    | cancel i => exact closeKept_of_connected inv here

/-! The instructor has two tabs open and closes the first. -/

def twoTabs : List StreamCommand := [.open "I1", .resume 0, .open "I1", .resume 1, .cancel 0]

theorem second_tab_orphaned : ¬ sse.Along StreamsKept .empty
    (twoTabs ++ [.push ⟨"I1", "approval_request", []⟩]) := by
  intro kept
  obtain ⟨queue, items, -, put, -⟩ := Machine.along_iff.mp kept twoTabs _ List.prefix_rfl
    ⟨⟨"I1", 0, .waiting⟩, .tail _ (.head _), nofun, rfl⟩
  cases put

end RealityAI.Proof.Gateway
