import RealityAI.Proof.Dashboard.Requests

namespace RealityAI.Proof.Dashboard
open Library Python Model.Gateway Model.Dashboard Proof.Gateway

/-! ## How a page handles its events -/

section
variable {decode : Decode} {ids : FreshIds} {g g' : ServerState} {userId : String} {first : Nat}
  {requests : List Model.Dashboard.ApprovalRequest}

theorem handle_result (call : ApprovalCall) (user : TokenData) :
    handleSSEMessage requests (resultEvent call user) =
      resolveRequest requests call.requestId call.body.action :=
  rfl

theorem handle_announcement {request : Model.Gateway.ApprovalRequest} (pending : request.status = "pending")
    (new : ∀ r ∈ requests, r.requestId ≠ request.requestId) :
    handleSSEMessage requests (announcement request) = card request :: requests := by
  show addRequest requests request.requestId request.userId request.context = _
  have absent : ¬ requests.any (·.requestId = request.requestId) = true := by
    rw [List.any_eq_true]
    rintro ⟨r, mem, same⟩
    exact new r mem (of_decide_eq_true same)
  rw [addRequest, if_neg absent, card, pending]

theorem handle_other {event : SseEvent} (request : event.eventType ≠ "approval_request")
    (result : event.eventType ≠ "approval_result") : handleSSEMessage requests event = requests := by
  rw [handleSSEMessage, if_neg request, if_neg result]

theorem resolveRequest_comm {a b x y : String} (agree : a = b → x = y) :
    resolveRequest (resolveRequest requests a x) b y =
      resolveRequest (resolveRequest requests b y) a x := by
  simp only [resolveRequest, List.map_map]
  apply List.map_congr_left
  intro r _
  by_cases first : r.requestId = a <;> by_cases second : r.requestId = b
  · have same : a = b := first.symm.trans second
    simp [Function.comp, same, agree same]
  · have different : a ≠ b := fun same => second (first.trans same)
    simp [Function.comp, first, different]
  · have different : b ≠ a := fun same => first (second.trans same)
    simp [Function.comp, second, different]
  · simp [Function.comp, first, second]

def Shows (requests : List Model.Dashboard.ApprovalRequest) (requestId : String) : Prop :=
  requestId ∈ requests.map (·.requestId)

theorem any_iff_shows {requestId : String} :
    requests.any (·.requestId = requestId) = true ↔ Shows requests requestId := by
  simp [Shows]

theorem handle_shows {requestId : String} (shows : Shows requests requestId) (event : SseEvent) :
    Shows (handleSSEMessage requests event) requestId := by
  unfold handleSSEMessage
  split
  · split
    · unfold addRequest
      split
      · exact shows
      · exact List.mem_cons_of_mem _ shows
    · exact shows
  · split
    · split
      · rw [Shows, resolveRequest_ids]
        exact shows
      · exact shows
    · exact shows

theorem handle_resolve {requestId action : String} (shows : Shows requests requestId)
    {event : SseEvent} (reports : Reports g event) (recorded : statusOf g requestId = some action) :
    handleSSEMessage (resolveRequest requests requestId action) event =
      resolveRequest (handleSSEMessage requests event) requestId action := by
  by_cases request : event.eventType = "approval_request"
  · unfold handleSSEMessage
    rw [if_pos request, if_pos request]
    split
    · rename_i other userId _ _
      unfold addRequest
      have ids : (resolveRequest requests requestId action).any (·.requestId = other) =
          requests.any (·.requestId = other) := by
        rw [Bool.eq_iff_iff, any_iff_shows, any_iff_shows, Shows, Shows, resolveRequest_ids]
      rw [ids]
      split
      · rfl
      · rename_i absent
        rw [any_iff_shows] at absent
        have different : other ≠ requestId := fun same => absent (same ▸ shows)
        simp [resolveRequest, different]
    · rfl
  by_cases result : event.eventType = "approval_result"
  · obtain ⟨other, told, names, tells, known, -⟩ := reports result
    have handled (requests : List Model.Dashboard.ApprovalRequest) :
        handleSSEMessage requests event = resolveRequest requests other told := by
      rw [handleSSEMessage, if_neg request, if_pos result, names, tells]
    rw [handled, handled]
    apply resolveRequest_comm
    intro same
    rw [← same, recorded] at known
    exact Option.some.inj known
  · rw [handle_other request result, handle_other request result]

theorem foldl_resolve {requestId action : String} {content : List SseEvent}
    (reports : ∀ e ∈ content, Reports g e) (recorded : statusOf g requestId = some action)
    (shows : Shows requests requestId) :
    content.foldl handleSSEMessage (resolveRequest requests requestId action) =
      resolveRequest (content.foldl handleSSEMessage requests) requestId action := by
  induction content generalizing requests with
  | nil => rfl
  | cons e later ih =>
      rw [List.foldl_cons, List.foldl_cons, handle_resolve shows (reports e List.mem_cons_self) recorded]
      exact ih (fun e mem => reports e (List.mem_cons_of_mem _ mem)) (handle_shows shows e)

theorem resolveRequest_absent {requestId action : String} (absent : ¬ Shows requests requestId) :
    resolveRequest requests requestId action = requests := by
  apply resolveRequest_same
  intro r mem same
  exact absurd (List.mem_map.mpr ⟨r, mem, same⟩) absent

/-! ## A call of the gateway -/

theorem pushAll_content {queue : Nat} {content : List SseEvent} (stored : Stored g)
    (connected : g.connections userId = some queue) (here : g.queues[queue]? = some content)
    (pushes : List Push) : (pushAll g pushes).queues[queue]? =
      some (content ++ (pushes.filter (·.userId = userId)).map Push.event) := by
  induction pushes generalizing g content with
  | nil => simpa [pushAll] using here
  | cons p later ih =>
      obtain ⟨requests, connections, -, queues, -⟩ := pushEvent_same (g := g) p
      have kept : Stored (pushEvent g p).1 := stored.of_same requests connections queues
      have still : (pushEvent g p).1.connections userId = some queue := by rw [connections, connected]
      by_cases mine : p.userId = userId
      · have put : (pushEvent g p).1.queues[queue]? = some (content ++ [p.event]) := by
          unfold pushEvent
          rw [mine, connected]
          simp [here]
        have after := ih kept still put
        rw [pushAll, List.foldl_cons]
        rw [List.filter_cons_of_pos (by simpa using mine), List.map_cons]
        rwa [List.append_assoc] at after
      · have kept' : (pushEvent g p).1.queues[queue]? = some content := by
          unfold pushEvent
          cases other : g.connections p.userId with
          | none => exact here
          | some queue' =>
              have different : queue' ≠ queue := by
                intro same
                exact mine (stored.apart _ _ queue (same ▸ other) connected)
              simp [different, here]
        rw [pushAll, List.foldl_cons, List.filter_cons_of_neg (by simpa using mine)]
        exact ih kept still kept'

structure Informs (ids : FreshIds) (userId : String) (first : Nat) (g g' : ServerState)
    (events : List SseEvent) : Prop where
  settles : Settles g g'
  drawn : g.drawn ≤ g'.drawn
  reports : ∀ e ∈ events, Reports g' e
  shows : events.foldl handleSSEMessage (asked ids g userId first) = asked ids g' userId first

theorem foldl_other {events : List SseEvent} (other : ∀ e ∈ events,
      e.eventType ≠ "approval_request" ∧ e.eventType ≠ "approval_result") :
    events.foldl handleSSEMessage requests = requests := by
  induction events with
  | nil => rfl
  | cons e later ih =>
      obtain ⟨request, result⟩ := other e List.mem_cons_self
      rw [List.foldl_cons, handle_other request result]
      exact ih fun e mem => other e (List.mem_cons_of_mem _ mem)

theorem informs_decided {call : ApprovalCall} {user : TokenData}
    {request : Model.Gateway.ApprovalRequest} (stored : Stored g)
    (found : g.requests call.requestId = some request) (pending : request.status = "pending")
    (final : call.body.action ≠ "pending") :
    Informs ids userId first g (resolvedState g request call)
      (([⟨request.userId, resultEvent call user⟩, ⟨request.instructorId, resultEvent call user⟩].filter
        (fun p : Push => p.userId = userId)).map Push.event) := by
  have recorded : statusOf (resolvedState g request call) call.requestId = some call.body.action :=
    (resolved_status _).trans (if_pos rfl)
  have stored' : Stored (resolvedState g request call) :=
    have begins : Begins ids g (resolvedState g request call)
        [⟨request.userId, resultEvent call user⟩, ⟨request.instructorId, resultEvent call user⟩] :=
      .decides found pending final
    begins.stored stored
  have once : handleSSEMessage (asked ids g userId first) (resultEvent call user) =
      asked ids (resolvedState g request call) userId first :=
    (handle_result call user).trans (asked_resolved stored found).symm
  have twice : handleSSEMessage (asked ids (resolvedState g request call) userId first)
      (resultEvent call user) = asked ids (resolvedState g request call) userId first :=
    (handle_result call user).trans (asked_recorded stored' recorded)
  refine ⟨?_, le_rfl, ?_, ?_⟩
  · intro requestId action before settled
    rw [resolved_status]
    split
    · rename_i same
      rw [same, statusOf, found] at before
      exact absurd ((Option.some.inj before).symm.trans pending) settled
    · exact before
  · intro e mem _
    obtain ⟨p, member, same⟩ := List.mem_map.mp mem
    have told : e = resultEvent call user := by
      rcases List.mem_cons.mp (List.mem_filter.mp member).1 with h | h
      · rw [← same, h]
      · rw [← same, List.mem_singleton.mp h]
    rw [told]
    exact ⟨call.requestId, call.body.action, rfl, rfl, recorded, final⟩
  · by_cases student : request.userId = userId <;> by_cases mine : request.instructorId = userId
    · simp [student, mine, once, twice]
    · simp [student, mine, once]
    · simp [student, mine, once]
    · -- the request is another instructor's, so the page has no card of it
      have absent : resolveRequest (asked ids g userId first) call.requestId call.body.action =
          asked ids g userId first := by
        apply resolveRequest_same
        intro r mem same
        obtain ⟨k, other, -, -, -, here, theirs, -⟩ := mem_asked stored mem
        rw [same, found] at here
        cases here
        exact absurd theirs mine
      simp only [List.filter_cons, student, mine, decide_false, Bool.false_eq_true, if_false,
        List.filter_nil, List.map_nil, List.foldl_nil]
      rw [asked_resolved stored found, absent]

theorem informs_created {log : List SseEvent} {request : Model.Gateway.ApprovalRequest}
    (consistent : Consistent ids log g) (stored : Stored g) (start : first ≤ g.drawn)
    (pending : request.status = "pending") (drawn : request.requestId = ids.uuid4 g.drawn) :
    Informs ids userId first g (createdState g request)
      (([⟨request.instructorId, announcement request⟩].filter
        (fun p : Push => p.userId = userId)).map Push.event) := by
  refine ⟨consistent.created_settles drawn, Nat.le_succ _, ?_, ?_⟩
  · intro e mem result
    obtain ⟨p, member, same⟩ := List.mem_map.mp mem
    rw [← same, List.mem_singleton.mp (List.mem_filter.mp member).1] at result
    simp [announcement] at result
  · rw [asked_created start drawn]
    by_cases mine : request.instructorId = userId
    · have new : ∀ r ∈ asked ids g userId first, r.requestId ≠ request.requestId := by
        intro r mem same
        obtain ⟨k, -, -, before, named, -⟩ := mem_asked stored mem
        rw [named, drawn] at same
        have := ids.distinct same
        omega
      simp [mine, handle_announcement pending new]
    · simp [mine]

theorem Begins.informs {log : List SseEvent} {pushes : List Push} (begins : Begins ids g g' pushes)
    (consistent : Consistent ids log g) (stored : Stored g) (start : first ≤ g.drawn) :
    Informs ids userId first g g' ((pushes.filter (·.userId = userId)).map Push.event) := by
  cases begins with
  | quiet other =>
      have types : ∀ e ∈ (pushes.filter (·.userId = userId)).map Push.event,
          e.eventType ≠ "approval_request" ∧ e.eventType ≠ "approval_result" := by
        intro e mem
        obtain ⟨p, member, same⟩ := List.mem_map.mp mem
        exact same ▸ other p (List.mem_filter.mp member).1
      refine ⟨fun _ _ recorded _ => recorded, le_rfl, ?_, foldl_other types⟩
      exact fun e mem result => absurd result (types e mem).2
  | decides found pending final => exact informs_decided stored found pending final
  | creates pending drawn => exact informs_created consistent stored start pending drawn

end

/-! ## Every run of a page -/

/-- Once the page has handled what stands on its queue it shows what its instructor is asked. -/
def CatchesUp (ids : FreshIds) (userId : String) (first : Nat) (page : Page) : Prop :=
  ∃ content, page.server.queues[page.queue]? = some content ∧
    content.foldl handleSSEMessage page.requests = asked ids page.server userId first

/-- The page stays connected and is the only reader of its queue. -/
def Attended (userId : String) (page : Page) : PageCommand → Prop
  | .server (.call invocation) => Regular invocation
  | .server (.disconnect userId') => userId' ≠ userId
  | .server (.read queue) => queue ≠ page.queue
  | _ => True

structure Attends (ids : FreshIds) (userId : String) (first : Nat) (page : Page) : Prop where
  sound : Sound ids page.server
  connected : page.server.connections userId = some page.queue
  start : first ≤ page.server.drawn
  content : ∃ content, page.server.queues[page.queue]? = some content ∧
    (∀ e ∈ content, Reports page.server e) ∧
    content.foldl handleSSEMessage page.requests = asked ids page.server userId first

section
variable {decode : Decode} {ids : FreshIds} {userId : String} {first : Nat} {page : Page}

theorem Attends.elsewhere (attends : Attends ids userId first page) {g' : ServerState}
    (sound : Sound ids g') (requests : g'.requests = page.server.requests)
    (drawn : g'.drawn = page.server.drawn) (connected : g'.connections userId = some page.queue)
    (queue : g'.queues[page.queue]? = page.server.queues[page.queue]?) :
    Attends ids userId first { page with server := g' } := by
  obtain ⟨content, here, reports, shows⟩ := attends.content
  refine ⟨sound, connected, drawn ▸ attends.start, content, queue.trans here, ?_, ?_⟩
  · intro e mem
    refine (reports e mem).mono ?_
    intro requestId action recorded _
    rw [statusOf_congr requests]
    exact recorded
  · exact shows.trans (asked_congr requests drawn).symm

theorem takePageCommand_server (command : SerialCommand) :
    takePageCommand decode ids page (.server command) =
      { page with server := ((serial decode ids).step page.server command).1 } :=
  rfl

theorem attends_call (attends : Attends ids userId first page) {invocation : Invocation}
    (regular : Regular invocation) : Attends ids userId first
      (takePageCommand decode ids page (.server (.call invocation))) := by
  obtain ⟨content, here, reports, shows⟩ := attends.content
  obtain ⟨log, consistent, -⟩ := attends.sound.gateway
  obtain ⟨g', pushes, answer, begins, after⟩ := serial_call decode ids page.server regular
  have stored : Stored (arrived page.server invocation) :=
    attends.sound.stored.of_same rfl rfl rfl
  have informs : Informs ids userId first (arrived page.server invocation) g' _ :=
    begins.informs (consistent.arrive invocation) stored attends.start
  have begun : g'.connections = page.server.connections ∧ g'.queues = page.server.queues := by
    cases begins <;> exact ⟨rfl, rfl⟩
  obtain ⟨requests, connections, drawn, -⟩ := pushAll_same (g := g') pushes
  have connected : g'.connections userId = some page.queue := begun.1 ▸ attends.connected
  have put := pushAll_content (begins.stored stored) connected (begun.2 ▸ here) pushes
  have same : (placed (pushAll g' pushes) page.server.coroutines.length invocation
      (.finished answer)).requests = g'.requests := requests
  have sound : Sound ids ((serial decode ids).step page.server (.call invocation)).1 :=
    serial_sound decode (.call invocation) regular attends.sound
  rw [after] at sound
  rw [takePageCommand_server, after]
  refine ⟨sound, (congrFun connections userId).trans connected,
    (attends.start.trans informs.drawn).trans drawn.ge,
    content ++ (pushes.filter (·.userId = userId)).map Push.event, put, ?_, ?_⟩
  · intro e mem
    show Reports (placed _ _ _ _) e
    rw [Reports, statusOf_congr same]
    rcases List.mem_append.mp mem with old | new
    · exact (reports e old).mono informs.settles
    · exact informs.reports e new
  · show _ = asked ids (placed _ _ _ _) userId first
    rw [List.foldl_append, asked_congr same drawn, ← informs.shows]
    exact congrArg (fun requests => List.foldl handleSSEMessage requests _) shows

theorem attends_server (attends : Attends ids userId first page) {command : SerialCommand}
    (attended : Attended userId page (.server command)) :
    Attends ids userId first (takePageCommand decode ids page (.server command)) := by
  cases command with
  | call invocation => exact attends_call attends attended
  | connect other =>
      obtain ⟨requests, drawn, -⟩ := getConnection_same (g := page.server) other
      refine attends.elsewhere (serial_sound decode (.connect other) trivial attends.sound)
        requests drawn (getConnection_keeps _ other attends.connected) ?_
      show (getConnection page.server other).queues[page.queue]? = _
      have bound := attends.sound.stored.queues _ _ attends.connected
      unfold getConnection
      cases page.server.connections other with
      | some _ => rfl
      | none => exact List.getElem?_append_left bound
  | disconnect other =>
      refine attends.elsewhere (serial_sound decode (.disconnect other) trivial attends.sound)
        rfl rfl ?_ rfl
      exact (Function.update_of_ne (Ne.symm attended) _ _).trans attends.connected
  | read queue =>
      refine attends.elsewhere (serial_sound decode (.read queue) trivial attends.sound)
        rfl rfl attends.connected ?_
      exact List.getElem?_modify_ne _ _ attended

theorem attends_message (attends : Attends ids userId first page) :
    Attends ids userId first (hear page) := by
  obtain ⟨content, here, reports, shows⟩ := attends.content
  unfold hear
  cases content with
  | nil =>
      simp only [here]
      exact attends
  | cons event later =>
      simp only [here]
      refine ⟨?_, attends.connected, attends.start, later, ?_,
        fun e mem => reports e (List.mem_cons_of_mem _ mem), shows⟩
      · exact serial_sound plainTokens (.read page.queue) trivial attends.sound
      · show (page.server.queues.modify page.queue List.tail)[page.queue]? = some later
        rw [List.getElem?_modify_eq, here]
        rfl

theorem attends_answer (attends : Attends ids userId first page) (i : Nat) :
    Attends ids userId first (receive page i) := by
  unfold receive
  split
  · rename_i call response here
    cases response with
    | error refused => exact attends
    | ok response =>
        obtain ⟨log, consistent, announces⟩ := attends.sound.gateway
        have mem := List.mem_of_getElem? here
        obtain ⟨names, decided⟩ := announces.answers _ mem call rfl response rfl
        obtain ⟨recorded, -⟩ := consistent.outcome _ mem response rfl
        rw [names, decided] at recorded
        obtain ⟨content, queued, reports, shows⟩ := attends.content
        refine ⟨attends.sound, attends.connected, attends.start, content, queued, reports, ?_⟩
        show content.foldl handleSSEMessage
          (resolveRequest page.requests call.requestId call.body.action) = _
        by_cases shown : Shows page.requests call.requestId
        · rw [foldl_resolve reports recorded shown, shows,
            asked_recorded attends.sound.stored recorded]
        · rw [resolveRequest_absent shown, shows]
  · exact attends

theorem attends_step (page : Page) (command : PageCommand) (attended : Attended userId page command)
    (attends : Attends ids userId first page) :
    Attends ids userId first ((pageMachine decode ids).step page command).1 := by
  cases command with
  | server command => exact attends_server attends attended
  | message => exact attends_message attends
  | answer i => exact attends_answer attends i

theorem attends_opened {g : ServerState} (sound : Sound ids g)
    (new : g.connections userId = none) : Attends ids userId g.drawn (openPage g userId) := by
  obtain ⟨requests, drawn, -⟩ := getConnection_same (g := g) userId
  have connected : (getConnection g userId).connections userId = some g.queues.length := by
    unfold getConnection
    rw [new]
    exact Function.update_self ..
  have opened : openPage g userId = ⟨getConnection g userId, g.queues.length, []⟩ := by
    rw [openPage, connected]
    rfl
  rw [opened]
  refine ⟨serial_sound plainTokens (.connect userId) trivial sound,
    connected, drawn.ge, [], ?_, List.forall_mem_nil _, ?_⟩
  · show (getConnection g userId).queues[g.queues.length]? = some []
    unfold getConnection
    rw [new]
    exact List.getElem?_concat_length
  · rw [asked, show (getConnection g userId).drawn = g.drawn from drawn, Nat.sub_self]
    rfl

end

/-- A page that an instructor opens on a new connection catches up with the gateway: whatever calls are
made and however far it has read, it shows what its instructor has been asked since, with the decisions,
once it has read its queue. -/
theorem page_catches_up (decode : Decode) (ids : FreshIds) (before : List SerialCommand)
    (regular : ∀ command ∈ before, RegularSerial command) (userId : String)
    (new : ((serial decode ids).run .empty before).1.connections userId = none)
    (cs : List PageCommand)
    (attended : (pageMachine decode ids).Along (Attended userId)
      (openPage ((serial decode ids).run .empty before).1 userId) cs) :
    CatchesUp ids userId ((serial decode ids).run .empty before).1.drawn
      ((pageMachine decode ids).run
        (openPage ((serial decode ids).run .empty before).1 userId) cs).1 := by
  have along := Machine.along_of_forall (m := serial decode ids) regular .empty
  have sound : Sound ids ((serial decode ids).run .empty before).1 :=
    Machine.run_invariant (fun g command => serial_sound decode command) along empty_sound
  have kept := Machine.run_invariant attends_step attended (attends_opened sound new)
  obtain ⟨content, here, -, shows⟩ := kept.content
  exact ⟨content, here, shows⟩

/-! The page of an instructor hears of a request late, and decides it. -/

def decidedPage : List PageCommand :=
  [.server (.call (.create "S001" "instructor_smith" [])), .message,
    .server (.call (.approval approveCall)), .answer 1]

theorem deciding_page_catches_up : CatchesUp countedIds "instructor_smith" 0
    ((pageMachine plainTokens countedIds).run (openPage .empty "instructor_smith") decidedPage).1 :=
  page_catches_up plainTokens countedIds [] (fun _ mem => by cases mem) "instructor_smith" rfl
    decidedPage ⟨trivial, trivial, trivial, trivial, trivial⟩

end RealityAI.Proof.Dashboard
