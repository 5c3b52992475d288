import RealityAI.Library.Latest
import RealityAI.Model.ChatHook

namespace RealityAI.Proof.ChatHook
open Library Model.ChatHook

def InFlight (send : Send) : Prop := send.phase ≠ .finished

def Aborted (send : Send) : Prop := send.aborted = true

def latest (s : HookState) : Latest Send := ⟨s.isLoading, s.abortRef, s.sends⟩

def Current (s : HookState) (i : Nat) : Prop := (latest s).Current InFlight i

/-- The flag and the ref show the current send, and no other is in flight without being aborted. -/
structure Tracked (s : HookState) : Prop where
  isLoading : s.isLoading = true ↔ ∃ i, Current s i
  abortRef : ∀ i, s.abortRef = some i ↔ Current s i
  alone : ∀ i j, (latest s).Live InFlight Aborted i → (latest s).Live InFlight Aborted j → i = j

def Phase.Ends : Phase → Prop
  | .responded status => ok status = false
  | .settled _ => True
  | _ => False

def AtEnd (s : HookState) (i : Nat) : Prop :=
  ∃ send, s.sends[i]? = some send ∧ Phase.Ends send.phase

/-- No send comes to its `finally` while a later one is in flight. -/
def InOrder (s : HookState) : HookCommand → Prop
  | .resume i => AtEnd s i → ∀ k, Current s k → k = i
  | _ => True

theorem tracked_iff (s : HookState) : Tracked s ↔ (latest s).Tracks InFlight Aborted :=
  ⟨fun ⟨busy, slot, alone⟩ => ⟨busy, slot, alone⟩, fun ⟨busy, slot, alone⟩ => ⟨busy, slot, alone⟩⟩

section
variable (send : Send)

theorem aborted_abort : Aborted send.abort := by
  unfold Aborted Send.abort
  cases send.phase <;> rfl

theorem inFlight_fetched (result : Except ChatError Nat) :
    InFlight (send.fetched result) ↔ InFlight send := by
  unfold InFlight Send.fetched
  cases phase : send.phase <;> cases result <;> simp [phase]
  split <;> simp [phase]

theorem aborted_fetched (result : Except ChatError Nat) :
    Aborted (send.fetched result) ↔ Aborted send := by
  unfold Aborted Send.fetched
  cases send.phase <;> cases result <;> simp
  split <;> rfl

theorem inFlight_read (result : Except ChatError ChatData) :
    InFlight (send.read result) ↔ InFlight send := by
  unfold InFlight Send.read
  cases phase : send.phase <;> cases result <;> simp [phase]
  split <;> simp [phase]

theorem aborted_read (result : Except ChatError ChatData) :
    Aborted (send.read result) ↔ Aborted send := by
  unfold Aborted Send.read
  cases send.phase <;> cases result <;> simp
  split <;> simp

theorem not_inFlight_close : ¬ InFlight send.close := by
  intro inFlight
  exact inFlight rfl

end

inductive Change (s : HookState) (c : HookCommand) : Latest Send → Prop
  | stays : Change s c (latest s)
  | starts {token sessionId : Option String} {content : String}
      (sent : c = .send token sessionId content) :
      Change s c ((latest s).start Send.abort ⟨false, .fetching⟩)
  | goesOn (i : Nat) (f : Send → Send)
      (runs : ∀ send, s.sends[i]? = some send → (InFlight (f send) ↔ InFlight send))
      (aborts : ∀ send, Aborted (f send) ↔ Aborted send) : Change s c ((latest s).update f i)
  | ends (i : Nat) (resumed : c = .resume i) (atEnd : AtEnd s i) :
      Change s c ((latest s).finish Send.close i)

variable {s : HookState} {c : HookCommand}

theorem resume_end {i : Nat} (atEnd : AtEnd s i) :
    latest (s.resume i) = (latest s).finish Send.close i := by
  obtain ⟨⟨aborted, phase⟩, here, ends⟩ := atEnd
  unfold HookState.resume
  rw [here]
  cases phase with
  | responded status =>
      dsimp only
      rw [if_neg (ne_true_of_eq_false ends)]
      rfl
  | settled outcome => rfl
  | fetching => cases ends
  | reading => cases ends
  | finished => cases ends

theorem change_resume (s : HookState) (i : Nat) :
    Change s (.resume i) (latest (s.resume i)) := by
  by_cases atEnd : AtEnd s i
  · rw [resume_end atEnd]
    exact .ends i rfl atEnd
  · unfold HookState.resume
    cases here : s.sends[i]? with
    | none => exact .stays
    | some send =>
        obtain ⟨aborted, phase⟩ := send
        cases phase with
        | responded status =>
            dsimp only
            by_cases success : ok status = true
            · rw [if_pos success]
              apply Change.goesOn i Send.readBody
              · intro other same
                rw [here] at same
                cases same
                simp [InFlight, Send.readBody]
              · intro other
                rfl
            · exact absurd ⟨_, here, (Bool.not_eq_true _).mp success⟩ atEnd
        | settled outcome => exact absurd ⟨_, here, trivial⟩ atEnd
        | fetching => exact .stays
        | reading => exact .stays
        | finished => exact .stays

theorem change_send (s : HookState) (token sessionId : Option String) (content : String) :
    Change s (.send token sessionId content)
      (latest (sendMessage s token sessionId content).1) := by
  unfold sendMessage
  by_cases empty : token.getD "" = "" ∨ trim content = ""
  · rw [if_pos empty]
    exact .stays
  · rw [if_neg empty]
    have started := Change.starts (s := s) (c := .send token sessionId content) rfl
    unfold Latest.start latest at started
    unfold HookState.abortCurrent latest
    cases slot : s.abortRef with
    | none => simpa [slot] using started
    | some i => simpa [slot] using started

theorem change (s : HookState) (c : HookCommand) : Change s c (latest (chat.step s c).1) := by
  cases c with
  | send token sessionId content => exact change_send s token sessionId content
  | fetched i result =>
      exact .goesOn i _ (fun send _ => inFlight_fetched send result)
        fun send => aborted_fetched send result
  | read i result =>
      exact .goesOn i _ (fun send _ => inFlight_read send result) fun send => aborted_read send result
  | resume i => exact change_resume s i
  | clearMessages => exact .stays

theorem step_end {i : Nat} (atEnd : AtEnd s i) :
    latest (chat.step s (.resume i)).1 = (latest s).finish Send.close i :=
  resume_end atEnd

/-- `dead` is what holds of the sends before the latest that are still in flight. -/
theorem step_ordered {dead : Send → Prop}
    (starts : (∃ token sessionId content, c = .send token sessionId content) →
      s.abortRef ≠ none → ∀ send : Send, dead send.abort)
    (keeps : ∀ send send', (Aborted send' ↔ Aborted send) → dead send → dead send')
    (inOrder : InOrder s c) (ordered : (latest s).Ordered InFlight dead) :
    (latest (chat.step s c).1).Ordered InFlight dead := by
  have changed := change s c
  generalize latest (chat.step s c).1 = after at changed ⊢
  cases changed with
  | stays => exact ordered
  | starts sent =>
      apply Latest.ordered_start
      · show (⟨false, .fetching⟩ : Send).phase ≠ .finished
        exact Phase.noConfusion
      · exact starts ⟨_, _, _, sent⟩
      · exact ordered
  | goesOn i f runs aborts =>
      apply Latest.ordered_update runs ?_ ordered
      intro send _
      exact keeps send (f send) (aborts send)
  | ends i resumed atEnd =>
      subst resumed
      exact Latest.ordered_finish not_inFlight_close (inOrder atEnd) ordered

theorem step_aborted (inOrder : InOrder s c) (ordered : (latest s).Ordered InFlight Aborted) :
    (latest (chat.step s c).1).Ordered InFlight Aborted := by
  apply step_ordered ?_ ?_ inOrder ordered
  · intro _ _ send
    exact aborted_abort send
  · intro send send' same
    exact same.mpr

theorem inOrder_of_tracked (tracked : Tracked (chat.step s c).1) : InOrder s c := by
  have tracks := (tracked_iff _).mp tracked
  cases c with
  | resume i =>
      intro atEnd
      rw [step_end atEnd] at tracks
      exact Latest.last_of_tracks_finish not_inFlight_close tracks
  | send token sessionId content => trivial
  | fetched i result => trivial
  | read i result => trivial
  | clearMessages => trivial

theorem tracked_of_inOrder {cs : List HookCommand} (inOrder : chat.Along InOrder .idle cs) :
    chat.Always Tracked .idle cs := by
  intro before start
  have always := Machine.always_of_invariant (Q := fun s => (latest s).Ordered InFlight Aborted)
    (fun _ _ => step_aborted) inOrder Latest.ordered_empty
  exact (tracked_iff _).mpr (always before start).tracks

/-- The flag and the ref show the latest request in every state of exactly the runs in which no send
comes to its `finally` while a later one is in flight. -/
theorem hook_tracks_iff (cs : List HookCommand) :
    chat.Always Tracked .idle cs ↔ chat.Along InOrder .idle cs := by
  constructor
  · intro always
    rw [Machine.along_iff]
    intro before c start
    apply inOrder_of_tracked
    have tracked := always (before ++ [c]) start
    rwa [Machine.run_append] at tracked
  · exact tracked_of_inOrder

/-! The second question is sent before the first is answered, and the third before the second is. -/

def overlapping : List HookCommand :=
  [.send (some "jwt") none "When is the exam?", .send (some "jwt") none "Where is it?", .resume 0,
    .send (some "jwt") none "How long is it?"]

/-- The end of the aborted send drops the controller of the second. -/
theorem second_send_unaborted : ¬ chat.Always Tracked .idle overlapping := by
  intro always
  have tracked := always overlapping List.prefix_rfl
  have second : (latest (chat.run .idle overlapping).1).Live InFlight Aborted 1 :=
    ⟨⟨false, .fetching⟩, (by decide +kernel : (chat.run .idle overlapping).1.sends[1]? = some _), Phase.noConfusion, Bool.noConfusion⟩
  have third : (latest (chat.run .idle overlapping).1).Live InFlight Aborted 2 :=
    ⟨⟨false, .fetching⟩, (by decide +kernel : (chat.run .idle overlapping).1.sends[2]? = some _), Phase.noConfusion, Bool.noConfusion⟩
  cases tracked.alone 1 2 second third

/-- A send starts only while `isLoading` is false, as in a form that it disables. -/
def Waits (s : HookState) : HookCommand → Prop
  | .send _ _ _ => s.isLoading = false
  | _ => True

theorem inFlight_of_atEnd {i : Nat} (atEnd : AtEnd s i) :
    ∃ send, s.sends[i]? = some send ∧ InFlight send := by
  obtain ⟨⟨aborted, phase⟩, here, ends⟩ := atEnd
  refine ⟨_, here, ?_⟩
  intro finished
  cases finished
  cases ends

theorem inOrder_of_alone (ordered : (latest s).Ordered InFlight fun _ => False) : InOrder s c := by
  cases c with
  | resume i =>
      intro atEnd k current
      obtain ⟨send, here, inFlight⟩ := inFlight_of_atEnd atEnd
      have bound : i < s.sends.length := (List.getElem?_eq_some_iff.mp here).1
      have last : k + 1 = s.sends.length := current.1
      by_contra other
      exact ordered.overtaken i send here (show i + 1 < s.sends.length by omega) inFlight
  | send token sessionId content => trivial
  | fetched i result => trivial
  | read i result => trivial
  | clearMessages => trivial

theorem step_alone (waits : Waits s c) (ordered : (latest s).Ordered InFlight fun _ => False) :
    (latest (chat.step s c).1).Ordered InFlight fun _ => False := by
  apply step_ordered ?_ ?_ (inOrder_of_alone ordered) ordered
  · intro ⟨token, sessionId, content, sent⟩ held
    subst sent
    obtain ⟨i, slot⟩ := Option.ne_none_iff_exists'.mp held
    have busy := ordered.busy.mpr ⟨i, (ordered.slot i).mp slot⟩
    cases (busy : s.isLoading = true).symm.trans waits
  · intro send send' _
    exact id

theorem waiting_tracked {cs : List HookCommand} (waits : chat.Along Waits .idle cs) :
    chat.Always Tracked .idle cs := by
  apply tracked_of_inOrder
  rw [Machine.along_iff]
  intro before c start
  have earlier : chat.Along Waits .idle before :=
    waits.initial ((List.prefix_append before [c]).trans start)
  apply inOrder_of_alone
  exact Machine.run_invariant (Q := fun s => (latest s).Ordered InFlight fun _ => False)
    (fun _ _ => step_alone) earlier Latest.ordered_empty

end RealityAI.Proof.ChatHook
