import RealityAI.Proof.Chat.Answers
import RealityAI.Proof.Backend

namespace RealityAI.Proof.Chat
open Library Python Model.Safety Model.CoreService Model.ActionTools Model.Backend Model.Gateway
open Model.Chat InnerSafety StudentService Backend

/-- Only enrollments have changed, none was removed, and no grade was set. -/
structure OnlyEnrollments (before after : Database) : Prop where
  students : after.students = before.students
  assignments : after.assignments = before.assignments
  kept : ∀ key e, before.enrollments.find? key = some e →
    ∃ e', after.enrollments.find? key = some e' ∧ e'.grade = e.grade
  fresh : ∀ key e, before.enrollments.find? key = none →
    after.enrollments.find? key = some e → e.grade = none

def OthersKept (users : List String) (before after : Database) : Prop :=
  ∀ key : EnrollmentKey, key.1 ∉ users →
    after.enrollments.find? key = before.enrollments.find? key

section
variable {db db' after : Database}

theorem OnlyEnrollments.refl (db : Database) : OnlyEnrollments db db where
  students := rfl
  assignments := rfl
  kept _ e found := ⟨e, found, rfl⟩
  fresh _ _ absent found := by
    rw [absent] at found
    cases found

theorem OnlyEnrollments.trans (first : OnlyEnrollments db db')
    (second : OnlyEnrollments db' after) : OnlyEnrollments db after where
  students := second.students.trans first.students
  assignments := second.assignments.trans first.assignments
  kept key e found := by
    obtain ⟨e', found', same⟩ := first.kept key e found
    obtain ⟨e'', found'', same'⟩ := second.kept key e' found'
    exact ⟨e'', found'', same'.trans same⟩
  fresh key e absent found := by
    cases between : db'.enrollments.find? key with
    | none => exact second.fresh key e between found
    | some e' =>
        obtain ⟨e'', found'', same⟩ := second.kept key e' between
        obtain rfl : e = e'' := Option.some.inj (found.symm.trans found'')
        exact same.trans (first.fresh key e' absent between)

/-- One row is written, with the grade it had. -/
structure WritesRow (key : EnrollmentKey) (db db' : Database) : Prop where
  students : db'.students = db.students
  assignments : db'.assignments = db.assignments
  row : ∃ row : EnrollmentEntity, row.grade = (db.enrollments.find? key).bind EnrollmentEntity.grade ∧
    ∀ other, db'.enrollments.find? other =
      if other = key then some row else db.enrollments.find? other

theorem WritesRow.onlyEnrollments {key : EnrollmentKey} (writes : WritesRow key db db') :
    OnlyEnrollments db db' := by
  obtain ⟨students, assignments, row, grade, written⟩ := writes
  refine ⟨students, assignments, ?_, ?_⟩
  · intro other e found
    rw [written]
    by_cases same : other = key
    · subst same
      rw [found] at grade
      exact ⟨row, if_pos rfl, grade⟩
    · exact ⟨e, (if_neg same).trans found, rfl⟩
  · intro other e absent found
    rw [written] at found
    by_cases same : other = key
    · subst same
      rw [if_pos rfl] at found
      obtain rfl : row = e := Option.some.inj found
      rw [grade, absent]
      rfl
    · rw [if_neg same, absent] at found
      cases found

theorem WritesRow.key {key other : EnrollmentKey} (writes : WritesRow key db db')
    (changed : db'.enrollments.find? other ≠ db.enrollments.find? other) : other = key := by
  obtain ⟨-, -, row, -, written⟩ := writes
  by_contra apart
  exact changed ((written other).trans (if_neg apart))

theorem drop_writes {studentId courseId : String}
    (dropped : grpcDropEnrollment db studentId courseId semester = .ok db') :
    WritesRow (enrollmentKey studentId courseId) db db' := by
  obtain ⟨row, found, rfl⟩ := grpcDropEnrollment_ok.mp dropped
  have named := (find?_iff found).2
  refine ⟨rfl, rfl, { row with status := "DROPPED" }, by rw [found]; rfl, ?_⟩
  intro other
  have moved := find?_update db.enrollments { row with status := "DROPPED" } other
  change _ = if other = row.key then _ else _ at moved
  rw [moved, named]
  by_cases same : other = enrollmentKey studentId courseId
  · rw [if_pos same, if_pos same, same, found]
    rfl
  · rw [if_neg same, if_neg same]

theorem enroll_writes {columns : Columns} {studentId courseId : String} {row : EnrollmentEntity}
    (enrolled : grpcEnrollStudent columns db studentId courseId semester = .ok (row, db')) :
    WritesRow (enrollmentKey studentId courseId) db db' := by
  obtain ⟨can, enrollments, inserted, -, rfl⟩ := grpcEnrollStudent_ok.mp enrolled
  have absent : db.enrollments.find? (enrollmentKey studentId courseId) = none :=
    find?_none.mpr can.free
  exact ⟨rfl, rfl, _, by rw [absent]; rfl, find?_insert inserted⟩

theorem serviceAnswer_writes {columns : Columns} {hex studentId courseId action : String}
    (answered : serviceAnswer columns hex db (.enrollmentModify studentId courseId action) =
      .ok db') : WritesRow (enrollmentKey studentId courseId) db db' := by
  unfold serviceAnswer at answered
  dsimp only at answered
  split at answered
  · obtain ⟨row, enrolled⟩ := map_snd_ok.mp answered
    exact enroll_writes enrolled
  · exact drop_writes answered

variable (columns : Columns) (server : Server) {d : Delivery} in
theorem deliver_writes {studentId courseId action : String}
    (call : d.event = .invoked (.enrollmentModify studentId courseId action)) :
    (deliver columns server d).db = server.db ∨
      WritesRow (enrollmentKey studentId courseId) server.db (deliver columns server d).db := by
  obtain ⟨reported, ran, -⟩ := runCall_reports columns d.hex
    { server with reachable := d.reachable } (.enrollmentModify studentId courseId action)
  unfold deliver
  rw [call]
  dsimp only
  rw [ran]
  unfold afterCall
  split
  · cases answered : serviceAnswer columns d.hex server.db
        (.enrollmentModify studentId courseId action) with
    | error status => exact .inl rfl
    | ok db' => exact .inr (serviceAnswer_writes answered)
  · exact .inl rfl

end

section
variable {decode : Decode} {turn : Turn}

theorem chat_acts {event : Event}
    (logged : event ∈ (chat decode turn.world turn.token turn.request).log) :
    ∃ user judged, verifyToken decode turn.token = .ok user ∧
      Front.front turn.world.steps.builtins.toInterpreter turn.world.guard turn.world.intentReply
        (initialState user turn.request) = .ok judged ∧
      Model.Orchestrator.routeAfterOuterSafety judged = .allow ∧
      StudentLog (¬ ModelSendsToolCall turn.world) user.userId (sessionIdOf user turn.request)
        (chat decode turn.world turn.token turn.request).log := by
  unfold chat at logged ⊢
  cases verified : verifyToken decode turn.token with
  | error e =>
      rw [verified] at logged
      cases logged
  | ok user =>
      simp only [verified] at logged
      rcases answer_acts turn.world user turn.request with quiet | ⟨judged, front, route, own⟩
      · rw [quiet] at logged
        cases logged
      · exact ⟨user, judged, rfl, front, route, own⟩

variable (columns : Columns) (server : Server) {d : Delivery}

theorem deliver_onlyEnrollments
    (logged : d.event ∈ (chat decode turn.world turn.token turn.request).log) :
    OnlyEnrollments server.db (deliver columns server d).db := by
  obtain ⟨user, -, -, -, -, own⟩ := chat_acts logged
  cases event : d.event with
  | persisted record =>
      unfold deliver
      rw [event]
      exact .refl server.db
  | invoked call =>
      obtain ⟨studentId, courseId, action, rfl, -⟩ := own.call (event ▸ logged)
      rcases deliver_writes columns server event with same | writes
      · rw [same]
        exact .refl server.db
      · exact writes.onlyEnrollments

theorem deliver_others {users : List String} (plain : ¬ ModelSendsToolCall turn.world)
    (listed : ∀ user, verifyToken decode turn.token = .ok user → user.userId ∈ users)
    (logged : d.event ∈ (chat decode turn.world turn.token turn.request).log) :
    OthersKept users server.db (deliver columns server d).db := by
  intro key outside
  obtain ⟨user, judged, verified, -, -, own⟩ := chat_acts logged
  cases event : d.event with
  | persisted record =>
      unfold deliver
      rw [event]
  | invoked call =>
      obtain ⟨studentId, courseId, action, rfl, mine⟩ := own.call (event ▸ logged)
      rcases deliver_writes columns server event with same | writes
      · rw [same]
      · by_contra changed
        obtain rfl := writes.key changed
        have inside : studentId ∈ users := mine plain ▸ listed user verified
        exact outside inside

end

def callers (decode : Decode) (turns : List Turn) : List String :=
  turns.filterMap fun turn => (verifyToken decode turn.token).toOption.map TokenData.userId

theorem mem_callers {decode : Decode} {turns : List Turn} {turn : Turn} (listed : turn ∈ turns)
    {user : TokenData} (verified : verifyToken decode turn.token = .ok user) :
    user.userId ∈ callers decode turns :=
  List.mem_filterMap.mpr ⟨turn, listed, by rw [verified]; rfl⟩

/-- However many people chat with whatever roles in their tokens, and in whatever order and how
often the calls of the agents reach the core service: only enrollments change, none is removed, and
no grade is ever set. Unless a model sends a call of LangChain, they are those of the people who
chat. -/
theorem chats_confined (decode : Decode) (columns : Columns) (turns : List Turn)
    (deliveries : List Delivery) (server : Server)
    (logged : ∀ d ∈ deliveries, ∃ turn ∈ turns,
      d.event ∈ (chat decode turn.world turn.token turn.request).log) :
    OnlyEnrollments server.db (deliveries.foldl (deliver columns) server).db ∧
      ((∀ turn ∈ turns, ¬ ModelSendsToolCall turn.world) →
        OthersKept (callers decode turns) server.db
          (deliveries.foldl (deliver columns) server).db) := by
  induction deliveries generalizing server with
  | nil => exact ⟨.refl server.db, fun _ _ _ => rfl⟩
  | cons d ds ih =>
      obtain ⟨turn, listed, here⟩ := logged d List.mem_cons_self
      obtain ⟨only, others⟩ := ih (deliver columns server d) fun d' later =>
        logged d' (List.mem_cons_of_mem _ later)
      refine ⟨(deliver_onlyEnrollments columns server here).trans only, ?_⟩
      intro plain key outside
      have first := deliver_others columns server (plain turn listed)
        (fun user verified => mem_callers listed verified) here
      exact (others plain key outside).trans (first key outside)

/-! A student adds a course, with a token that names another role. -/

def addWorld : ChatWorld :=
  { questionWorld with
    intentReply := .ok ⟨.str "\x7b\"intent\": \"action\"\x7d", some (.obj [("intent", .str "action")])⟩
    actionReply := .ok WriteGate.addReply }

def adminToken : Decode := fun _ => .ok [("sub", .str "S001"), ("role", .str "admin")]

def addTurn : Turn := ⟨addWorld, "token", ⟨"Enroll me in CS101", none⟩⟩

def oneStudent : Server where
  db := ⟨["S001"], ⟨[], List.nodup_nil⟩, []⟩
  reachable := true

def addDelivery : Delivery := ⟨.invoked (.enrollmentModify "S001" "CS101" "add"), "0A1B2C", true⟩

theorem addDelivery_logged : ∀ d ∈ [addDelivery], ∃ turn ∈ [addTurn],
    d.event ∈ (chat adminToken turn.world turn.token turn.request).log := by
  intro d mem
  rw [List.mem_singleton.mp mem]
  exact ⟨addTurn, List.mem_singleton_self _, List.mem_of_mem_head? (by rfl)⟩

theorem addTurn_plain : ∀ turn ∈ [addTurn], ¬ ModelSendsToolCall turn.world := by
  intro turn mem
  rw [List.mem_singleton.mp mem]
  rintro (⟨reply, replied, sends⟩ | ⟨made, p, raised, -⟩)
  · cases replied
    exact WriteGate.addReply_plain sends
  · cases raised

theorem admin_chats_as_student :
    OnlyEnrollments oneStudent.db ([addDelivery].foldl (deliver .schema) oneStudent).db ∧
      OthersKept (callers adminToken [addTurn]) oneStudent.db
        ([addDelivery].foldl (deliver .schema) oneStudent).db := by
  obtain ⟨only, others⟩ := chats_confined adminToken .schema [addTurn] [addDelivery] oneStudent
    addDelivery_logged
  exact ⟨only, others addTurn_plain⟩

end RealityAI.Proof.Chat
