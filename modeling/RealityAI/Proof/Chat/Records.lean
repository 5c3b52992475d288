import RealityAI.Proof.Chat.Confinement

namespace RealityAI.Proof.Chat
open Library Python Model.Safety Model.CoreService Model.ActionTools Model.Backend
open Model.Orchestrator Model.Gateway Model.Chat InnerSafety Backend

/-- The message that a row is changed for: outer safety has allowed it, and a call in it names the
row. Unless a model sends a call of LangChain, the row's own student has sent the message, and the
call is followed by its record. -/
structure AccountsFor (decode : Decode) (turn : Turn) (key : EnrollmentKey) (user : TokenData)
    (judged : AgentState) (action : String) : Prop where
  verified : verifyToken decode turn.token = .ok user
  front : Front.front turn.world.steps.builtins.toInterpreter turn.world.guard
    turn.world.intentReply (initialState user turn.request) = .ok judged
  allowed : routeAfterOuterSafety judged = .allow
  call : .invoked (.enrollmentModify key.1 key.2.1 action) ∈
    (chat decode turn.world turn.token turn.request).log
  student : ¬ ModelSendsToolCall turn.world → user.userId = key.1
  recorded : ¬ ModelSendsToolCall turn.world →
    Recorded user.userId (sessionIdOf user turn.request)
      (chat decode turn.world turn.token turn.request).log
      (.enrollmentModify key.1 key.2.1 action)

theorem exists_of_foldl_ne {σ α β : Type} {f : σ → α → σ} (view : σ → β) {as : List α} {s : σ}
    (changed : view (as.foldl f s) ≠ view s) : ∃ a ∈ as, ∃ s', view (f s' a) ≠ view s' := by
  induction as generalizing s with
  | nil => exact absurd rfl changed
  | cons a as ih =>
      by_cases here : view (f s a) = view s
      · obtain ⟨a', mem, s', moved⟩ := ih (s := f s a) (by rw [here]; exact changed)
        exact ⟨a', List.mem_cons_of_mem _ mem, s', moved⟩
      · exact ⟨a, List.mem_cons_self, s, here⟩

theorem deliver_accounts (decode : Decode) (columns : Columns) {turn : Turn} (server : Server)
    {d : Delivery} (logged : d.event ∈ (chat decode turn.world turn.token turn.request).log)
    {key : EnrollmentKey} (changed : (deliver columns server d).db.enrollments.find? key ≠
      server.db.enrollments.find? key) :
    key.2.2 = semester ∧ ∃ user judged action, AccountsFor decode turn key user judged action := by
  obtain ⟨user, judged, verified, front, route, own⟩ := chat_acts logged
  cases event : d.event with
  | persisted record =>
      unfold deliver at changed
      rw [event] at changed
      exact absurd rfl changed
  | invoked call =>
      rw [event] at logged
      obtain ⟨studentId, courseId, action, rfl, mine⟩ := own.call logged
      rcases deliver_writes columns server event with unchanged | writes
      · exact absurd (congrArg (fun db => db.enrollments.find? key) unchanged) changed
      · obtain rfl := writes.key changed
        refine ⟨rfl, user, judged, action, verified, front, route, logged, ?_, ?_⟩
        · exact fun plain => (mine plain).symm
        · exact fun plain => own.recorded plain logged

/-- Whatever chats do to the core service, in whatever order and with whatever losses: an enrollment
that has changed is one of the current semester, and a message accounts for it. -/
theorem changes_recorded (decode : Decode) (columns : Columns) (turns : List Turn)
    (deliveries : List Delivery) (server : Server)
    (logged : ∀ d ∈ deliveries, ∃ turn ∈ turns,
      d.event ∈ (chat decode turn.world turn.token turn.request).log) (key : EnrollmentKey)
    (changed : (deliveries.foldl (deliver columns) server).db.enrollments.find? key ≠
      server.db.enrollments.find? key) :
    key.2.2 = semester ∧ ∃ turn ∈ turns, ∃ user judged action,
      AccountsFor decode turn key user judged action := by
  obtain ⟨d, mem, between, moved⟩ :=
    exists_of_foldl_ne (fun s : Server => s.db.enrollments.find? key) changed
  obtain ⟨turn, listed, here⟩ := logged d mem
  obtain ⟨current, user, judged, action, accounts⟩ :=
    deliver_accounts decode columns between here moved
  exact ⟨current, turn, listed, user, judged, action, accounts⟩

/-! The course that the student has added is accounted for. -/

theorem added_course_recorded : ∃ turn ∈ [addTurn], ∃ user judged action,
    AccountsFor adminToken turn ("S001", "CS101", "Fall 2025") user judged action :=
  (changes_recorded adminToken .schema [addTurn] [addDelivery] oneStudent addDelivery_logged
    ("S001", "CS101", "Fall 2025") (by decide)).2

end RealityAI.Proof.Chat
