import RealityAI.Proof.Gateway.Streams

namespace RealityAI.Proof.Gateway
open Library Python Model.Gateway

inductive Transfer where
  | put (queue : Nat) (push : Push)
  | yielded (queue : Nat) (userId : String) (event : SseEvent)

def transfers (s : StreamState) : StreamCommand → List Transfer
  | .push p => ((s.server.connections p.userId).map (Transfer.put · p)).toList
  | .resume i =>
      match s.streams[i]? with
      | none => []
      | some stream =>
          if stream.position = .closed then []
          else match s.server.queues[stream.queue]? with
            | some (event :: _) => [.yielded stream.queue stream.userId event]
            | _ => []
  | .open _ | .cancel _ => []

def traced : Machine StreamState StreamCommand Transfer :=
  ⟨fun s c => ((sse.step s c).1, transfers s c)⟩

def putOn (queue : Nat) : Transfer → Option SseEvent
  | .put queue' p => if queue' = queue then some p.event else none
  | .yielded .. => none

def yieldedFrom (queue : Nat) : Transfer → Option SseEvent
  | .put .. => none
  | .yielded queue' _ event => if queue' = queue then some event else none

/-- Queue by queue, what was put is what was yielded and then what still stands there, and who is
yielded an event is the user to whom it was pushed. -/
structure Delivers (log : List Transfer) (s : StreamState) : Prop where
  inOrder : ∀ queue, log.filterMap (putOn queue) =
    log.filterMap (yieldedFrom queue) ++ (s.server.queues[queue]?).getD []
  addressed : ∀ queue userId event, .yielded queue userId event ∈ log →
    ∃ p, .put queue p ∈ log ∧ p.event = event ∧ p.userId = userId

def Transfer.queue : Transfer → Nat
  | .put queue _ | .yielded queue _ _ => queue

def Transfer.userId : Transfer → String
  | .put _ p => p.userId
  | .yielded _ userId _ => userId

structure Owned (owners : List String) (log : List Transfer) (s : StreamState) : Prop where
  length : owners.length = s.server.queues.length
  connections : ∀ userId queue, s.server.connections userId = some queue → owners[queue]? = some userId
  streams : ∀ stream ∈ s.streams, owners[stream.queue]? = some stream.userId
  log : ∀ t ∈ log, owners[t.queue]? = some t.userId

structure Tracked (log : List Transfer) (s : StreamState) : Prop where
  owned : ∃ owners, Owned owners log s
  inOrder : ∀ queue, log.filterMap (putOn queue) =
    log.filterMap (yieldedFrom queue) ++ (s.server.queues[queue]?).getD []

section
variable {owners : List String} {log : List Transfer} {s : StreamState} {i : Nat} {stream : EventStream}

theorem Owned.stored (owned : Owned owners log s) : ∀ userId queue,
    s.server.connections userId = some queue → queue < s.server.queues.length := by
  intro userId queue connected
  rw [← owned.length]
  exact (List.getElem?_eq_some_iff.mp (owned.connections userId queue connected)).1

theorem Owned.moves {s' : StreamState} {new : List Transfer} (owned : Owned owners log s)
    (queues : s'.server.queues.length = s.server.queues.length)
    (connections : ∀ userId queue, s'.server.connections userId = some queue →
      s.server.connections userId = some queue)
    (streams : ∀ stream ∈ s'.streams, ∃ old ∈ s.streams,
      old.queue = stream.queue ∧ old.userId = stream.userId)
    (fresh : ∀ t ∈ new, owners[t.queue]? = some t.userId) : Owned owners (log ++ new) s' := by
  refine ⟨owned.length.trans queues.symm, ?_, ?_, ?_⟩
  · exact fun userId queue found => owned.connections userId queue (connections userId queue found)
  · intro stream mem
    obtain ⟨old, before, queue, user⟩ := streams stream mem
    rw [← queue, ← user]
    exact owned.streams old before
  · intro t mem
    rcases List.mem_append.mp mem with before | now
    · exact owned.log t before
    · exact fresh t now

theorem Owned.stands {s' : StreamState} (owned : Owned owners log s)
    (queues : s'.server.queues.length = s.server.queues.length)
    (connections : ∀ userId queue, s'.server.connections userId = some queue →
      s.server.connections userId = some queue)
    (streams : ∀ stream ∈ s'.streams, ∃ old ∈ s.streams,
      old.queue = stream.queue ∧ old.userId = stream.userId) : Owned owners log s' := by
  have moved := owned.moves queues connections streams (List.forall_mem_nil _)
  rwa [List.append_nil] at moved

theorem set_streams (here : s.streams[i]? = some stream) (position : StreamPosition) :
    ∀ other ∈ s.streams.set i { stream with position }, ∃ old ∈ s.streams,
      old.queue = other.queue ∧ old.userId = other.userId := by
  intro other mem
  rcases List.mem_or_eq_of_mem_set mem with before | moved
  · exact ⟨other, before, rfl, rfl⟩
  · exact ⟨stream, List.mem_of_getElem? here, by rw [moved], by rw [moved]⟩

theorem connection_new {userId : String} (owned : Owned owners log s)
    (new : s.server.connections userId = none) :
    Owned (owners ++ [userId]) log { s with server := getConnection s.server userId } := by
  have later {queue : Nat} {user : String} (known : owners[queue]? = some user) :
      (owners ++ [userId])[queue]? = some user := by
    rw [List.getElem?_append_left (List.getElem?_eq_some_iff.mp known).1, known]
  have made : getConnection s.server userId = { s.server with
      connections := Function.update s.server.connections userId (some s.server.queues.length)
      queues := s.server.queues ++ [[]] } := by
    unfold getConnection
    rw [new]
  rw [made]
  refine ⟨?_, ?_, fun stream mem => later (owned.streams stream mem),
    fun t mem => later (owned.log t mem)⟩
  · simp [owned.length]
  · intro user queue found
    by_cases same : user = userId
    · have index : s.server.queues.length = queue := by
        simpa [same] using found
      rw [same, ← index, ← owned.length, List.getElem?_concat_length]
    · apply later
      apply owned.connections
      simpa [same] using found

theorem tracked_open (userId : String) (tracked : Tracked log s) :
    Tracked log (sseEvents s userId) := by
  obtain ⟨queue, connected, before⟩ : ∃ queue,
      (getConnection s.server userId).connections userId = some queue ∧
      ((s.server.connections userId = some queue ∧ getConnection s.server userId = s.server) ∨
        s.server.connections userId = none) := by
    unfold getConnection
    cases found : s.server.connections userId with
    | some queue => exact ⟨queue, found, .inl ⟨rfl, rfl⟩⟩
    | none => exact ⟨_, Function.update_self .., .inr rfl⟩
  have opened : sseEvents s userId =
      ⟨getConnection s.server userId, s.streams ++ [⟨userId, queue, .starting⟩]⟩ := by
    simp [sseEvents, connected]
  obtain ⟨owners, owned⟩ := tracked.owned
  obtain ⟨owners', owned'⟩ : ∃ owners',
      Owned owners' log { s with server := getConnection s.server userId } := by
    rcases before with ⟨-, same⟩ | new
    · rw [same]
      exact ⟨owners, owned⟩
    · exact ⟨_, connection_new owned new⟩
  rw [opened]
  constructor
  · refine ⟨owners', owned'.length, owned'.connections, ?_, owned'.log⟩
    intro stream mem
    rcases List.mem_append.mp mem with old | new
    · exact owned'.streams stream old
    · rw [List.mem_singleton.mp new]
      exact owned'.connections userId queue connected
  · intro other
    rw [tracked.inOrder other]
    congr 1
    unfold getConnection
    cases s.server.connections userId with
    | some _ => rfl
    | none =>
        show _ = ((s.server.queues ++ [[]])[other]?).getD []
        rw [List.getElem?_append]
        split
        · rfl
        · rename_i beyond
          rw [List.getElem?_eq_none (Nat.le_of_not_lt beyond)]
          cases other - s.server.queues.length <;> rfl

theorem tracked_push (p : Push) (tracked : Tracked log s) :
    Tracked (log ++ transfers s (.push p)) (sse.step s (.push p)).1 := by
  obtain ⟨owners, owned⟩ := tracked.owned
  show Tracked (log ++ ((s.server.connections p.userId).map (Transfer.put · p)).toList)
    { s with server := (pushEvent s.server p).1 }
  unfold pushEvent
  cases connected : s.server.connections p.userId with
  | none =>
      rw [Option.map_none, Option.toList_none, List.append_nil]
      exact tracked
  | some queue =>
      constructor
      · refine ⟨owners, owned.moves (by simp) (fun _ _ found => found)
          (fun stream mem => ⟨stream, mem, rfl, rfl⟩) ?_⟩
        intro t mem
        rw [Option.map_some, Option.toList_some, List.mem_singleton] at mem
        rw [mem]
        exact owned.connections _ _ connected
      · intro other
        have bound := owned.stored _ _ connected
        rw [Option.map_some, Option.toList_some, List.filterMap_append, List.filterMap_append,
          tracked.inOrder other]
        by_cases same : queue = other
        · subst same
          simp [putOn, yieldedFrom, bound]
        · simp [putOn, yieldedFrom, same]

theorem tracked_generator (here : s.streams[i]? = some stream) (tracked : Tracked log s)
    (live : stream.position ≠ .closed) :
    Tracked (log ++ transfers s (.resume i)) (eventGenerator s i stream) := by
  obtain ⟨owners, owned⟩ := tracked.owned
  unfold eventGenerator transfers
  simp only [here, if_neg live]
  have waits : Tracked (log ++ []) { s with streams := s.streams.set i { stream with position := .waiting } } :=
    ⟨⟨owners, owned.moves rfl (fun _ _ found => found) (set_streams here .waiting)
      (List.forall_mem_nil _)⟩, by simpa using tracked.inOrder⟩
  cases content : s.server.queues[stream.queue]? with
  | none => exact waits
  | some items =>
      cases items with
      | nil => exact waits
      | cons event later =>
          constructor
          · refine ⟨owners, owned.moves (by simp) (fun _ _ found => found)
              (set_streams here .sending) ?_⟩
            intro t mem
            rw [List.mem_singleton.mp mem]
            exact owned.streams stream (List.mem_of_getElem? here)
          · intro other
            have bound := (List.getElem?_eq_some_iff.mp content).1
            rw [List.filterMap_append, List.filterMap_append, tracked.inOrder other]
            by_cases same : stream.queue = other
            · subst same
              have read : (s.server.queues.set stream.queue later)[stream.queue]? = some later :=
                List.getElem?_set_self bound
              rw [content]
              show _ = _ ++ ((s.server.queues.set stream.queue later)[stream.queue]?).getD []
              rw [read]
              simp [putOn, yieldedFrom]
            · simp [putOn, yieldedFrom, same]

theorem tracked_cancel (here : s.streams[i]? = some stream) (tracked : Tracked log s) :
    Tracked log (cancelStream s i stream) := by
  obtain ⟨owners, owned⟩ := tracked.owned
  unfold cancelStream
  split
  · refine ⟨⟨owners, ?_⟩, tracked.inOrder⟩
    have kept : ∀ userId queue, (removeConnection s.server stream.userId).connections userId = some queue →
        s.server.connections userId = some queue := by
      intro userId queue found
      by_cases same : userId = stream.userId
      · simp [removeConnection, same] at found
      · simpa [removeConnection, same] using found
    exact owned.stands rfl kept (set_streams here .closed)
  · refine ⟨⟨owners, ?_⟩, tracked.inOrder⟩
    exact owned.stands rfl (fun _ _ found => found) (set_streams here .closed)

theorem tracked_step (log : List Transfer) (s : StreamState) (c : StreamCommand) (_ : True)
    (tracked : Tracked log s) : Tracked (log ++ (traced.step s c).2) (traced.step s c).1 := by
  show Tracked (log ++ transfers s c) (sse.step s c).1
  cases c with
  | «open» userId =>
      rw [transfers, List.append_nil]
      exact tracked_open userId tracked
  | push p => exact tracked_push p tracked
  | resume i =>
      cases here : s.streams[i]? with
      | none =>
          rw [(step_lost here).1]
          simpa [transfers, here] using tracked
      | some stream =>
          rw [step_resume here]
          by_cases live : stream.position = .closed
          · rw [if_pos live]
            simpa [transfers, here, live] using tracked
          · rw [if_neg live]
            exact tracked_generator here tracked live
  | cancel i =>
      rw [transfers, List.append_nil]
      cases here : s.streams[i]? with
      | none =>
          rw [(step_lost here).2]
          exact tracked
      | some stream =>
          rw [step_cancel here]
          split
          · exact tracked
          · exact tracked_cancel here tracked

theorem Tracked.delivers (tracked : Tracked log s) : Delivers log s := by
  refine ⟨tracked.inOrder, ?_⟩
  intro queue userId event mem
  have got : event ∈ log.filterMap (yieldedFrom queue) :=
    List.mem_filterMap.mpr ⟨_, mem, if_pos rfl⟩
  have put : event ∈ log.filterMap (putOn queue) := by
    rw [tracked.inOrder queue]
    exact List.mem_append_left _ got
  obtain ⟨t, there, same⟩ := List.mem_filterMap.mp put
  cases t with
  | yielded => cases same
  | put queue' p =>
      obtain ⟨queues, events⟩ : queue' = queue ∧ p.event = event := by
        simpa [putOn] using same
      obtain ⟨owners, owned⟩ := tracked.owned
      subst queues
      have sender := owned.log _ there
      have receiver := owned.log _ mem
      exact ⟨p, there, events, Option.some.inj (sender.symm.trans receiver)⟩

end

theorem traced_run (s : StreamState) (cs : List StreamCommand) :
    (traced.run s cs).1 = (sse.run s cs).1 :=
  Machine.logging_run transfers s cs

/-- However streams are opened, resumed and cancelled and whatever is pushed, no stream is yielded an
event that was pushed to somebody else, and from no queue is an event lost, doubled or overtaken. -/
theorem streams_deliver (cs : List StreamCommand) :
    Delivers (traced.run .empty cs).2 (sse.run .empty cs).1 := by
  have empty : Tracked [] .empty := by
    refine ⟨⟨[], rfl, ?_, ?_, ?_⟩, fun queue => rfl⟩ <;> intros <;> contradiction
  have tracked := Machine.run_logged tracked_step (Machine.along_true _ _ cs) empty
  rw [List.nil_append, traced_run] at tracked
  exact tracked.delivers

end RealityAI.Proof.Gateway
