import RealityAI.Model.Orchestrator
import RealityAI.Proof.InnerSafety
import RealityAI.Proof.OutputFilter

namespace RealityAI.Proof.Orchestrator
open Library Python Model.Safety Model.OutputFilter Model.Orchestrator InnerSafety

/-! ## Turns -/

def turnStep (turn : List ThreadEvent) : ThreadEvent → List ThreadEvent
  | .message => []
  | e => turn ++ [e]

def turnOf (log : List ThreadEvent) : List ThreadEvent := log.foldl turnStep []

theorem turnOf_message (log : List ThreadEvent) : turnOf (log ++ [.message]) = [] := by
  rw [turnOf, List.foldl_append]
  rfl

theorem turnOf_append {log es : List ThreadEvent} (silent : ThreadEvent.message ∉ es) :
    turnOf (log ++ es) = turnOf log ++ es := by
  rw [turnOf, List.foldl_append, ← turnOf]
  generalize turnOf log = turn
  induction es generalizing turn with
  | nil => exact (List.append_nil turn).symm
  | cons e es ih =>
      obtain ⟨here, later⟩ := not_or.mp (List.mem_cons.not.mp silent)
      have step : turnStep turn e = turn ++ [e] := by
        cases e with
        | message => exact absurd rfl here
        | _ => rfl
      rw [List.foldl_cons, step, ih later, List.append_assoc]
      rfl

def Decides : ThreadEvent → Prop
  | .judged _ | .resumed _ _ => True
  | _ => False

def Unjudged (turn : List ThreadEvent) : Prop := ∀ e ∈ turn, ¬ Decides e

structure Flagged (turn : List ThreadEvent) : Prop where
  flagged : .judged .flagForReview ∈ turn
  noDenial : .judged .deny ∉ turn
  undecided : ∀ k decision, .resumed k decision ∈ turn → ∀ b, approves decision ≠ .ok b

/-- The message was allowed, or flagged and after that approved; it was neither denied nor
rejected. -/
structure Cleared (turn : List ThreadEvent) : Prop where
  granted : .judged .allow ∈ turn ∨ ∃ before after k decision,
    turn = before ++ .judged .flagForReview :: after ∧ .resumed k decision ∈ after ∧
      approves decision = .ok true
  noDenial : .judged .deny ∉ turn
  noRejection : ∀ k decision, .resumed k decision ∈ turn → approves decision ≠ .ok false

theorem Unjudged.snoc {turn : List ThreadEvent} {e : ThreadEvent} (open_ : Unjudged turn)
    (silent : ¬ Decides e) : Unjudged (turn ++ [e]) := by
  intro e' mem
  cases List.mem_append.mp mem with
  | inl old => exact open_ e' old
  | inr new => rwa [List.mem_singleton.mp new]

theorem Cleared.snoc {turn : List ThreadEvent} {e : ThreadEvent} (cleared : Cleared turn)
    (silent : ¬ Decides e) : Cleared (turn ++ [e]) := by
  have old {e' : ThreadEvent} (decides : Decides e') (mem : e' ∈ turn ++ [e]) : e' ∈ turn := by
    cases List.mem_append.mp mem with
    | inl old => exact old
    | inr new => exact absurd (List.mem_singleton.mp new ▸ decides) silent
  refine ⟨?_, fun deny => cleared.noDenial (old trivial deny),
    fun k decision mem => cleared.noRejection k decision (old trivial mem)⟩
  cases cleared.granted with
  | inl allow => exact .inl (List.mem_append_left _ allow)
  | inr approved =>
      obtain ⟨before, after, k, decision, same, mem, approve⟩ := approved
      refine .inr ⟨before, after ++ [e], k, decision, ?_, List.mem_append_left _ mem, approve⟩
      rw [same, List.append_assoc]
      rfl

def Standing (turn : List ThreadEvent) : Position → Prop
  | .at .intentClassification | .at .agentRouting | .at .outerSafetyCheck => Unjudged turn
  | .at .hitlApproval => Flagged turn
  | .at .corefResolver | .at .execution => Cleared turn
  | .at .outputFilter => ∃ before n, turn = before ++ [.ran .responseGeneration n]
  | _ => True

/-! ## One node -/

section
variable (rt : Runtime) (w : NodeWorld) (s : AgentState)

theorem outerSafety_judges {s' : AgentState} (ok : outerSafetyNode w.tiers s = .ok s') :
    ∃ d, routeAfterOuterSafety s' = d ∧ verdictEvents .outerSafetyCheck s' = [.judged d] := by
  obtain ⟨update, -, ok⟩ := bind_ok.mp ok
  cases ok
  exact ⟨_, rfl, rfl⟩

theorem judged_standing {turn : List ThreadEvent} (unjudged : Unjudged turn) (n : Nat)
    (d : SafetyDecision) :
    Standing (turn ++ [.ran .outerSafetyCheck n, .judged d])
      (match d with
        | .allow => .at .corefResolver
        | .deny => .at .rejectNode
        | .flagForReview => .at .hitlApproval) := by
  have old {e : ThreadEvent} (decides : Decides e) (other : e ≠ .judged d) :
      e ∉ turn ++ [.ran .outerSafetyCheck n, .judged d] := by
    intro mem
    rcases List.mem_append.mp mem with old | new
    · exact unjudged e old decides
    · rcases List.mem_pair.mp new with rfl | rfl
      · exact decides
      · exact other rfl
  have new : .judged d ∈ turn ++ [.ran .outerSafetyCheck n, .judged d] :=
    List.mem_append_right _ (List.mem_pair.mpr (.inr rfl))
  cases d with
  | deny => trivial
  | allow =>
      exact ⟨.inl new, old trivial (by simp), fun k decision mem => absurd mem (old trivial (by simp))⟩
  | flagForReview =>
      exact ⟨new, old trivial (by simp), fun k decision mem => absurd mem (old trivial (by simp))⟩

theorem runAt_cases (node : Node) :
    (∃ e, runNode rt w s node = .error e ∧ runAt rt w s node =
      (⟨s, if node = .hitlApproval then .at .hitlApproval else .failed⟩,
        [.ran node s.messages.length])) ∨
    (∃ s' next, runNode rt w s node = .ok s' ∧ nextNode s' node = some next ∧
      runAt rt w s node =
        (⟨s', .at next⟩, .ran node s.messages.length :: verdictEvents node s')) ∨
    (∃ s', runNode rt w s node = .ok s' ∧ nextNode s' node = none ∧ runAt rt w s node =
      (⟨s', .idle⟩, [.ran node s.messages.length, .delivered (s'.response.getD .null)])) := by
  unfold runAt
  cases ran : runNode rt w s node with
  | error e => exact .inl ⟨e, rfl, rfl⟩
  | ok s' =>
      cases edge : nextNode s' node with
      | none => exact .inr (.inr ⟨s', rfl, edge, by simp only [edge]⟩)
      | some next => exact .inr (.inl ⟨s', next, rfl, edge, by simp only [edge]⟩)

theorem runAt_silent (node : Node) : ThreadEvent.message ∉ (runAt rt w s node).2 := by
  rcases runAt_cases rt w s node with ⟨e, -, run⟩ | ⟨s', next, -, -, run⟩ | ⟨s', -, -, run⟩
  · simp [run]
  · simp only [run, verdictEvents]
    split <;> simp
  · simp [run]

theorem nextNode_none {s : AgentState} {node : Node} (last : nextNode s node = none) :
    node = .outputFilter := by
  cases node with
  | outputFilter => rfl
  | outerSafetyCheck => cases route : routeAfterOuterSafety s <;> simp [nextNode, route] at last
  | hitlApproval => by_cases approved : s.approvalStatus = some "approved" <;>
      simp [nextNode, approved] at last
  | intentClassification | agentRouting | corefResolver | rejectNode | execution
  | responseGeneration => cases last

theorem hitlApproval_log :
    (runAt rt w s .hitlApproval).2 = [.ran .hitlApproval s.messages.length] := by
  rcases runAt_cases rt w s .hitlApproval with
    ⟨e, -, run⟩ | ⟨s', next, -, -, run⟩ | ⟨s', -, edge, -⟩
  · rw [run]
  · rw [run]
    rfl
  · cases nextNode_none edge

theorem runAt_each {Good : List ThreadEvent → ThreadEvent → Prop} {log : List ThreadEvent}
    {node : Node} (first : Good log (.ran node s.messages.length))
    (judged : ∀ log d, Good log (.judged d))
    (delivered : ∀ s', node = .outputFilter ∧ outputFilterNode rt s = .ok s' →
      Good (log ++ [.ran node s.messages.length]) (.delivered (s'.response.getD .null))) :
    Machine.Each Good log (runAt rt w s node).2 := by
  rcases runAt_cases rt w s node with ⟨e, -, run⟩ | ⟨s', next, -, -, run⟩ | ⟨s', ok, edge, run⟩
  · rw [run]
    exact ⟨first, trivial⟩
  · rw [run]
    refine ⟨first, ?_⟩
    unfold verdictEvents
    split
    · cases s'.outerSafetyResult with
      | none => trivial
      | some outer => exact ⟨judged _ _, trivial⟩
    · trivial
  · obtain rfl := nextNode_none edge
    rw [run]
    exact ⟨first, delivered s' ⟨rfl, ok⟩, trivial⟩

theorem advance_standing {turn : List ThreadEvent} {node : Node} (moves : node ≠ .hitlApproval)
    (standing : Standing turn (.at node)) :
    Standing (turn ++ (runAt rt w s node).2) (runAt rt w s node).1.position := by
  rcases runAt_cases rt w s node with ⟨e, -, run⟩ | ⟨s', next, ok, edge, run⟩ | ⟨s', -, -, run⟩
  · rw [run, if_neg moves]
    trivial
  · rw [run]
    cases node with
    | intentClassification =>
        cases edge
        exact standing.snoc id
    | agentRouting =>
        cases edge
        exact standing.snoc id
    | outerSafetyCheck =>
        obtain ⟨d, route, verdict⟩ := outerSafety_judges w s ok
        have judged := judged_standing standing s.messages.length d
        rw [verdict]
        unfold nextNode at edge
        rw [route] at edge
        cases d <;> cases edge <;> exact judged
    | corefResolver =>
        cases edge
        exact standing.snoc id
    | hitlApproval => exact absurd rfl moves
    | rejectNode =>
        cases edge
        trivial
    | execution =>
        cases edge
        trivial
    | responseGeneration =>
        cases edge
        exact ⟨turn, _, rfl⟩
    | outputFilter => cases edge
  · rw [run]
    trivial

/-! ## A decision of the reviewer -/

theorem Flagged.undelivered {turn : List ThreadEvent} (flagged : Flagged turn) (k n : Nat)
    {decision : Json} (none : ∀ b, approves decision ≠ .ok b) :
    Flagged (turn ++ [.resumed k decision, .ran .hitlApproval n]) := by
  refine ⟨List.mem_append_left _ flagged.flagged, ?_, ?_⟩
  · simp [flagged.noDenial]
  · intro k' decision' mem
    rcases List.mem_append.mp mem with old | new
    · exact flagged.undecided k' decision' old
    · rcases List.mem_pair.mp new with same | other
      · cases same
        exact none
      · cases other

theorem Flagged.approved {turn : List ThreadEvent} (flagged : Flagged turn) (k n : Nat)
    {decision : Json} (approve : approves decision = .ok true) :
    Cleared (turn ++ [.resumed k decision, .ran .hitlApproval n]) := by
  refine ⟨?_, ?_, ?_⟩
  · obtain ⟨before, after, same⟩ := List.append_of_mem flagged.flagged
    refine .inr ⟨before, after ++ [.resumed k decision, .ran .hitlApproval n], k, decision, ?_,
      by simp, approve⟩
    rw [same, List.append_assoc]
    rfl
  · simp [flagged.noDenial]
  · intro k' decision' mem rejected
    rcases List.mem_append.mp mem with old | new
    · exact flagged.undecided k' decision' old false rejected
    · rcases List.mem_pair.mp new with same | other
      · cases same
        rw [approve] at rejected
        cases rejected
      · cases other

theorem runAt_undecided {e : PyExc} (fails : approves w.decision = .error e) :
    runAt rt w s .hitlApproval =
      (⟨s, .at .hitlApproval⟩, [.ran .hitlApproval s.messages.length]) := by
  have failed : runNode rt w s .hitlApproval = .error e := by
    show hitlApproval w.decision s = .error e
    unfold hitlApproval
    rw [fails]
    rfl
  simp only [runAt, failed, if_true]

theorem runAt_decided {b : Bool} (decided : approves w.decision = .ok b) :
    ∃ s', runAt rt w s .hitlApproval =
      (⟨s', .at (if b then .corefResolver else .responseGeneration)⟩,
        [.ran .hitlApproval s.messages.length]) := by
  have ends : ∃ s', runNode rt w s .hitlApproval = .ok s' ∧
      nextNode s' .hitlApproval = some (if b then .corefResolver else .responseGeneration) := by
    show ∃ s', hitlApproval w.decision s = .ok s' ∧ _
    unfold hitlApproval
    rw [decided]
    cases b with
    | true => exact ⟨_, rfl, rfl⟩
    | false => exact ⟨_, rfl, rfl⟩
  obtain ⟨s', ran, edge⟩ := ends
  refine ⟨s', ?_⟩
  simp only [runAt, ran, edge]
  rfl

theorem resume_standing {turn : List ThreadEvent} (flagged : Flagged turn) (k : Nat) :
    Standing (turn ++ .resumed k w.decision :: (runAt rt w s .hitlApproval).2)
      (runAt rt w s .hitlApproval).1.position := by
  cases decided : approves w.decision with
  | error e =>
      rw [runAt_undecided rt w s decided]
      exact flagged.undelivered k _ (by simp [decided])
  | ok b =>
      obtain ⟨s', run⟩ := runAt_decided rt w s decided
      rw [run]
      cases b with
      | true => exact flagged.approved k _ decided
      | false => trivial

/-! ## Commands -/

theorem takeCommand_cases (t : Thread) (c : Command) :
    takeCommand rt t c = (t, []) ∨
    (∃ input, c = .message input ∧
      takeCommand rt t c = (⟨receive t.state input, .at .intentClassification⟩, [.message])) ∨
    (∃ k w, c = .resume k w ∧ t.position = .at .hitlApproval ∧
      takeCommand rt t c = ((runAt rt w t.state .hitlApproval).1,
        .resumed k w.decision :: (runAt rt w t.state .hitlApproval).2)) ∨
    (∃ w node, c = .advance w ∧ t.position = .at node ∧ node ≠ .hitlApproval ∧
      takeCommand rt t c = runAt rt w t.state node) := by
  obtain ⟨s, position⟩ := t
  cases c with
  | message input =>
      cases position with
      | idle | failed => exact .inr (.inl ⟨input, rfl, rfl⟩)
      | «at» node => cases node <;> first | exact .inr (.inl ⟨input, rfl, rfl⟩) | exact .inl rfl
  | resume k w =>
      cases position with
      | idle | failed => exact .inl rfl
      | «at» node =>
          cases node <;> first | exact .inr (.inr (.inl ⟨k, w, rfl, rfl, rfl⟩)) | exact .inl rfl
  | advance w =>
      cases position with
      | idle | failed => exact .inl rfl
      | «at» node =>
          by_cases paused : node = .hitlApproval
          · subst paused
            exact .inl rfl
          · refine .inr (.inr (.inr ⟨w, node, rfl, rfl, paused, ?_⟩))
            cases node <;> first | exact absurd rfl paused | rfl

theorem takeCommand_standing (log : List ThreadEvent) (t : Thread) (c : Command)
    (standing : Standing (turnOf log) t.position) :
    Standing (turnOf (log ++ (takeCommand rt t c).2)) (takeCommand rt t c).1.position := by
  rcases takeCommand_cases rt t c with
    ignored | ⟨input, -, fresh⟩ | ⟨k, w, -, paused, resumed⟩ | ⟨w, node, -, here, moves, moved⟩
  · rw [ignored, List.append_nil]
    exact standing
  · rw [fresh, turnOf_message]
    exact fun e mem => absurd mem List.not_mem_nil
  · rw [paused] at standing
    have silent : ThreadEvent.message ∉
        .resumed k w.decision :: (runAt rt w t.state .hitlApproval).2 := by
      simp [runAt_silent]
    rw [resumed, turnOf_append silent]
    exact resume_standing rt w t.state standing k
  · rw [here] at standing
    rw [moved, turnOf_append (runAt_silent rt w t.state node)]
    exact advance_standing rt w t.state moves standing

/-! ## What a run shows -/

/-- The run went through the last two nodes, and the filter has made the text that is delivered; a
response that is not truthy is no text. -/
def Filtered (turn : List ThreadEvent) (response : Json) : Prop :=
  (∃ before i j, turn = before ++ [.ran .responseGeneration i, .ran .outputFilter j]) ∧
    ∃ text, response.or (.str "") = .str (filterResponse rt text).redactedText

theorem outputFilterNode_response {s s' : AgentState} (ok : outputFilterNode rt s = .ok s') :
    ∃ text, (s'.response.getD .null).or (.str "") = .str (filterResponse rt text).redactedText := by
  have missing : (s.response.getD .null).or (.str "") = (s.response.getD (.str "")).or (.str "") := by
    cases s.response <;> rfl
  unfold outputFilterNode at ok
  split at ok
  · rename_i empty
    cases ok
    exact ⟨"", by rw [missing, empty]; rfl⟩
  · rename_i response _ same
    cases ok
    refine ⟨response, ?_⟩
    by_cases redacted : 0 < (filterResponse rt response).redactionsCount
    · simp only [if_pos redacted, Option.getD_some, Json.str_or_empty]
    · simp only [if_neg redacted]
      rw [missing, same, OutputFilter.redactedText_of_none rt (by omega)]
  · cases ok

def Good (log : List ThreadEvent) : ThreadEvent → Prop
  | .ran .execution _ => Cleared (turnOf log)
  | .delivered response => Filtered rt (turnOf log) response
  | _ => True

theorem runAt_good {log : List ThreadEvent} {node : Node}
    (standing : Standing (turnOf log) (.at node)) :
    Machine.Each (Good rt) log (runAt rt w s node).2 := by
  have first : Good rt log (.ran node s.messages.length) := by
    cases node with
    | execution => exact standing
    | _ => trivial
  -- what is delivered comes from the output filter, which stands after response generation
  refine runAt_each rt w s first (fun _ _ => trivial) ?_
  intro s' ⟨same, ok⟩
  subst same
  obtain ⟨before, i, turn⟩ := standing
  refine ⟨?_, outputFilterNode_response rt ok⟩
  rw [turnOf_append (by simp), turn]
  exact ⟨before, i, _, List.append_assoc _ _ _⟩

theorem takeCommand_good (log : List ThreadEvent) (t : Thread) (c : Command)
    (standing : Standing (turnOf log) t.position) :
    Machine.Each (Good rt) log (takeCommand rt t c).2 := by
  rcases takeCommand_cases rt t c with
    ignored | ⟨input, -, fresh⟩ | ⟨k, w, -, paused, resumed⟩ | ⟨w, node, -, here, moves, moved⟩
  · rw [ignored]
    trivial
  · rw [fresh]
    exact ⟨trivial, trivial⟩
  · rw [resumed, hitlApproval_log]
    exact ⟨trivial, trivial, trivial⟩
  · rw [here] at standing
    rw [moved]
    exact runAt_good rt w t.state standing

theorem run_good (s : AgentState) (commands : List Command) :
    Machine.Each (Good rt) [] ((thread rt).run ⟨s, .idle⟩ commands).2 := by
  let inv (log : List ThreadEvent) (t : Thread) : Prop := Standing (turnOf log) t.position
  have start : inv [] ⟨s, .idle⟩ := trivial
  exact Machine.run_emits (fun log t c _ standing => takeCommand_standing rt log t c standing)
    (fun log t c _ standing => takeCommand_good rt log t c standing)
    (Machine.along_true _ _ commands) start

/-- Whatever the state holds at the start, execution runs only for a message that the turn has
cleared, and only filtered responses are delivered. -/
theorem execution_cleared_response_filtered (s : AgentState) (commands : List Command)
    {log : List ThreadEvent} (run : ((thread rt).run ⟨s, .idle⟩ commands).2 = log) :
    (∀ before n after, log = before ++ .ran .execution n :: after → Cleared (turnOf before)) ∧
      ∀ before response after, log = before ++ .delivered response :: after →
        Filtered rt (turnOf before) response := by
  have good := run_good rt s commands
  constructor
  · intro before n after split
    rw [run, split] at good
    exact good.split
  · intro before response after split
    rw [run, split] at good
    exact good.split

end

/-! A message that is flagged and approved. -/

def passes (tier : TierName) : Except PyExc TierResult := .ok ⟨tier, .allow, "ok", ""⟩

def reviewedWorld : NodeWorld where
  intentReply := .ok ⟨.str "", none⟩
  tiers :=
    { checkRbac := fun _ => passes .rbac
      checkStaticRules := fun _ =>
        .ok ⟨.staticRules, .flagForReview, "bulk_operation", "Bulk operations need a review"⟩
      checkInjection := fun _ => passes .injectionGuard }
  decision := .obj [("approved", .bool true)]
  coref := ⟨fun _ _ => false, .ok ⟨"", "", 1⟩, 0⟩
  agents :=
    let answer := fun _ => .ok ⟨.str "Done", []⟩
    ⟨answer, answer, answer⟩

def turn (text : String) : Command := .message ⟨⟨.str text⟩, id⟩

def toPause : List Command := .replicate 3 (.advance reviewedWorld)

def approveAndFinish (madeFor : Nat) : List Command :=
  .resume madeFor reviewedWorld :: .replicate 4 (.advance reviewedWorld)

def approvedLog : List ThreadEvent :=
  [.message, .ran .intentClassification 1, .ran .agentRouting 1, .ran .outerSafetyCheck 1,
    .judged .flagForReview, .resumed 1 reviewedWorld.decision, .ran .hitlApproval 1,
    .ran .corefResolver 1]

set_option maxRecDepth 100000 in
theorem approved_message_cleared :
    ((thread .ascii).run ⟨{}, .idle⟩ (turn "Drop all my courses" :: toPause ++ approveAndFinish 1)).2
      = approvedLog ++ .ran .execution 1 :: [.ran .responseGeneration 1, .ran .outputFilter 1,
          .delivered (.str "Done")] ∧
    Cleared (turnOf approvedLog) := by
  have shown : ((thread .ascii).run ⟨{}, .idle⟩
      (turn "Drop all my courses" :: toPause ++ approveAndFinish 1)).2 =
        approvedLog ++ .ran .execution 1 :: [.ran .responseGeneration 1, .ran .outputFilter 1,
          .delivered (.str "Done")] := rfl
  obtain ⟨cleared, -⟩ := execution_cleared_response_filtered .ascii {} _ shown
  exact ⟨shown, cleared approvedLog 1 _ rfl⟩

end RealityAI.Proof.Orchestrator
