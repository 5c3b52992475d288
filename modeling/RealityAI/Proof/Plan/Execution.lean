import RealityAI.Model.PlanningAgent
import RealityAI.Proof.Plan.Layers

namespace RealityAI.Proof.Plan
open Library Library.Superstep Python Model.Schemas Model.State Model.Safety Model.PlanningAgent

/-! ## Node names -/

theorem stepId_nonneg (s : PlanStep) : 0 ≤ s.stepId := by
  by_contra negative
  have valid := s.valid
  rw [StepFields.validate, StepFields.checkStepId, if_neg negative] at valid
  cases valid

theorem stepNodeName_toList (s : PlanStep) : (stepNodeName s).toList =
    "step_".toList ++ (Nat.toDigits 10 s.stepId.toNat ++ '_' :: (stepNodeSuffix s).toList) := by
  obtain ⟨n, same⟩ := Int.eq_ofNat_of_zero_le (stepId_nonneg s)
  have digits : (toString s.stepId).toList = Nat.toDigits 10 s.stepId.toNat := by
    rw [same]
    exact Nat.toList_repr
  rw [stepNodeName, String.toList_append, String.toList_append, String.toList_append, digits]
  simp only [List.append_assoc, List.append_cancel_left_eq]
  rfl

theorem takeWhile_underscore (n : Nat) (rest : List Char) :
    (Nat.toDigits 10 n ++ '_' :: rest).takeWhile (· ≠ '_') = Nat.toDigits 10 n := by
  rw [List.takeWhile_append_of_pos]
  · simp
  · intro c mem
    simp only [ne_eq, decide_eq_true_eq]
    intro same
    subst same
    exact Nat.underscore_not_in_toDigits mem

theorem stepNodeName_inj {s s' : PlanStep} (same : stepNodeName s = stepNodeName s') :
    s.stepId = s'.stepId := by
  have lists := congrArg String.toList same
  rw [stepNodeName_toList, stepNodeName_toList, List.append_cancel_left_eq] at lists
  have digits := congrArg (List.takeWhile (· ≠ '_')) lists
  rw [takeWhile_underscore, takeWhile_underscore] at digits
  have number := congrArg (Nat.ofDigitChars 10 · 0) digits
  simp only [Nat.ofDigitChars_ten_toDigits] at number
  have := stepId_nonneg s
  have := stepId_nonneg s'
  omega

section
variable {ω : Type} (h : LawfulHandlers ω) (p : Plan)

theorem nodeNames_eq {s : PlanStep} (mem : s ∈ p.steps) : nodeNames p s.stepId = stepNodeName s := by
  rw [nodeNames, (find?_eq_some_iff p).mpr ⟨mem, rfl⟩]
  rfl

theorem names_nodup : (p.steps.map fun s => nodeNames p s.stepId).Nodup := by
  refine List.Nodup.map_on ?_ (steps_nodup p)
  intro s mem s' mem' same
  rw [nodeNames_eq p mem, nodeNames_eq p mem'] at same
  exact step_ext p mem mem' (stepNodeName_inj same)

/-! ## What a step node returns -/

def stepValue : Except PyExc StepValue → StepValue
  | .ok result => result
  | .error e => .exc e

def stepCall (step : PlanStep) : Except PyExc StepValue → ToolCall
  | .error e =>
      { toolName := stepLabel step, arguments := stepArgs step, success := false,
        error := some e.text }
  | .ok result =>
      match deniedResult step result with
      | some d =>
          { toolName := stepLabel step, arguments := stepArgs step,
            result := summarizeForTrace result, success := false,
            error := (errorField (denialText d)).toOption.join }
      | none =>
          { toolName := stepLabel step, arguments := stepArgs step,
            result := summarizeForTrace result, success := true }

theorem dispatch_denied {step : PlanStep} {outputs : StepOutputs} {session : Option SessionContext}
    {result : StepValue} {d : Dict} (out : (dispatchStep h.toHandlers step outputs session).out = .ok result)
    (denied : deniedResult step result = some d) : ∃ text, errorField (denialText d) = .ok text := by
  unfold deniedResult at denied
  split at denied
  · rename_i d'
    by_cases action : step.agentType = .action ∧ (Dict.get d' "denied_by_inner_safety").truthy = true
    · rw [if_pos action] at denied
      obtain rfl : d' = d := Option.some.inj denied
      rw [dispatchStep, action.1] at out
      obtain ⟨d'', returned, same⟩ := Eff.bind_out_ok.mp out
      obtain rfl : d'' = d' := by simpa using same
      exact h.denial step outputs session d'' returned action.2
    · rw [if_neg action] at denied
      cases denied
  · cases denied

theorem makeStepNode_ok (step : PlanStep) (state : ExecState) :
    (makeStepNode h.toHandlers step state).out =
      let out := (dispatchStep h.toHandlers step state.stepOutputs state.session).out
      .ok (stepUpdate step (stepValue out) (stepCall step out)) := by
  show stepOutcome step _ = _
  cases returned : (dispatchStep h.toHandlers step state.stepOutputs state.session).out with
  | error e => rfl
  | ok result =>
      simp only [stepOutcome, stepCall, stepValue]
      cases denied : deniedResult step result with
      | none => rfl
      | some d =>
          obtain ⟨text, valid⟩ := dispatch_denied h returned denied
          simp only [valid]
          rfl

/-! ## The plan graph encodes the dependencies -/

def needsOf (step : PlanStep) : List PlanStep := step.dependsOn.filterMap p.find?

theorem mem_needsOf {s a : PlanStep} : a ∈ needsOf p s ↔ a ∈ p.steps ∧ a.stepId ∈ s.dependsOn := by
  simp only [needsOf, List.mem_filterMap, find?_eq_some_iff]
  constructor
  · intro ⟨i, dependsOn, mem, same⟩
    subst same
    exact ⟨mem, dependsOn⟩
  · intro ⟨mem, dependsOn⟩
    exact ⟨_, dependsOn, mem, rfl⟩

theorem needsOf_ids {s : PlanStep} (mem : s ∈ p.steps) :
    (needsOf p s).map (fun a => a.stepId) = s.dependsOn := by
  rw [needsOf, List.map_filterMap]
  conv_rhs => rw [← List.filterMap_some (l := s.dependsOn)]
  apply List.filterMap_congr
  intro i dependsOn
  obtain ⟨a, inside, rfl⟩ := (valid p).known s mem i dependsOn
  rw [(find?_eq_some_iff p).mpr ⟨inside, rfl⟩]
  rfl

theorem stepEdge_eq {s : PlanStep} (mem : s ∈ p.steps) :
    stepEdge p s = edgeInto (fun a => nodeNames p a.stepId) (needsOf p) s := by
  have ids := needsOf_ids p mem
  unfold stepEdge edgeInto
  rw [← ids]
  rcases needsOf p s with _ | ⟨a, _ | ⟨b, rest⟩⟩
  · rfl
  · rfl
  · simp

theorem stepEdges_leads {s : PlanStep} (mem : s ∈ p.steps) :
    (stepEdges p s).filter Edge.leads =
      [edgeInto (fun a => nodeNames p a.stepId) (needsOf p) s] := by
  have leads : (edgeInto (fun a => nodeNames p a.stepId) (needsOf p) s).leads = true := by
    unfold edgeInto
    split <;> rfl
  rw [stepEdges, stepEdge_eq p mem]
  split
  · rw [List.filter_cons_of_pos leads]
    rfl
  · rw [List.filter_cons_of_pos leads]
    rfl

noncomputable def encoding : Encoding (compilePlanGraph h.toHandlers p) PlanStep where
  nodes := p.steps
  name s := nodeNames p s.stepId
  needs := needsOf p
  act := makeStepNode h.toHandlers
  value s state :=
    let out := (dispatchStep h.toHandlers s state.stepOutputs state.session).out
    stepUpdate s (stepValue out) (stepCall s out)
  level s := level p s.stepId
  distinct := names_nodup p
  known _ _ a before := ((mem_needsOf p).mp before).1
  table := rfl
  wiring := by
    show (p.steps.flatMap (stepEdges p)).filter Edge.leads = _
    rw [List.filter_flatMap, List.flatMap_congr fun s mem => stepEdges_leads p mem]
    exact List.flatMap_pure_eq_map _ _
  succeeds s _ state := makeStepNode_ok h s state
  level_le s mem n := by
    rw [level_le_iff p mem]
    constructor
    · intro all a before
      exact all _ ((mem_needsOf p).mp before).2
    · intro all i dependsOn
      obtain ⟨a, inside, rfl⟩ := (valid p).known s mem i dependsOn
      exact all a ((mem_needsOf p).mpr ⟨inside, dependsOn⟩)

/-! ## The state before each superstep -/

variable (order : MergeOrder Update) (session : Option SessionContext)

noncomputable def stateAt (k : Nat) : ExecState :=
  (encoding h p).stateAt order ⟨∅, [], session⟩ k

noncomputable def inputOf (s : PlanStep) : ExecState := stateAt h p order session (level p s.stepId)

noncomputable def outcomeOf (s : PlanStep) : Except PyExc StepValue :=
  (dispatchStep h.toHandlers s (inputOf h p order session s).stepOutputs (inputOf h p order session s).session).out

noncomputable def valueOf (s : PlanStep) : StepValue := stepValue (outcomeOf h p order session s)

noncomputable def callOf (s : PlanStep) : ToolCall := stepCall s (outcomeOf h p order session s)

noncomputable def updateOf (s : PlanStep) : Update :=
  stepUpdate s (valueOf h p order session s) (callOf h p order session s)

theorem updates_eq (k : Nat) :
    (encoding h p).updates k (stateAt h p order session k) =
      ((encoding h p).layer k).map (updateOf h p order session) := by
  apply List.map_congr_left
  intro s mem
  obtain rfl := ((encoding h p).mem_layer.mp mem).2
  rfl

theorem stateAt_succ (k : Nat) : ∃ ss : List PlanStep, ss.Perm ((encoding h p).layer k) ∧
    stateAt h p order session (k + 1) =
      (ss.map (updateOf h p order session)).foldl mergeUpdate (stateAt h p order session k) := by
  obtain ⟨ss, arranged, perm⟩ := order.arrange_map k ((encoding h p).layer k) (updateOf h p order session)
  refine ⟨ss, perm, ?_⟩
  rw [← arranged, ← updates_eq]
  rfl

theorem mergeUpdate_outputs (state : ExecState) (s : PlanStep) (value : StepValue) (call : ToolCall) :
    (mergeUpdate state (stepUpdate s value call)).stepOutputs =
      state.stepOutputs.insert s.stepId value := by
  show AList.singleton s.stepId value ∪ state.stepOutputs = _
  rw [← AList.insert_empty, ← AList.insert_union, AList.empty_union]

theorem foldl_mergeUpdate (value : PlanStep → StepValue) (call : PlanStep → ToolCall)
    (ss : List PlanStep) (distinct : (ss.map fun s => s.stepId).Nodup) (state : ExecState) :
    let merged := (ss.map fun s => stepUpdate s (value s) (call s)).foldl mergeUpdate state
    merged.session = state.session ∧ merged.toolCalls = state.toolCalls ++ ss.map call ∧
      (∀ s ∈ ss, merged.stepOutputs.lookup s.stepId = some (value s)) ∧
      ∀ i, i ∉ ss.map (fun s => s.stepId) →
        merged.stepOutputs.lookup i = state.stepOutputs.lookup i := by
  induction ss generalizing state with
  | nil => simp
  | cons s ss ih =>
      obtain ⟨fresh, distinct⟩ := List.nodup_cons.mp distinct
      obtain ⟨same, calls, values, others⟩ :=
        ih distinct (mergeUpdate state (stepUpdate s (value s) (call s)))
      rw [mergeUpdate_outputs] at others
      refine ⟨same, ?_, ?_, ?_⟩
      · simpa [mergeUpdate, stepUpdate] using calls
      · intro s' mem
        cases List.mem_cons.mp mem with
        | inl here =>
            rw [here]
            exact (others _ fresh).trans (AList.lookup_insert _)
        | inr later => exact values s' later
      · intro i away
        simp only [List.map_cons, List.mem_cons, not_or] at away
        exact (others i away.2).trans (AList.lookup_insert_ne away.1)

/-- Before the `k`-th superstep exactly the steps of the levels below have left their result. -/
structure Progress (k : Nat) : Prop where
  carried : (stateAt h p order session k).session = session
  outputs : ∀ s ∈ p.steps, (stateAt h p order session k).stepOutputs.lookup s.stepId =
    if level p s.stepId < k then some (valueOf h p order session s) else none
  known : ∀ i, i ∉ stepIds p.steps → (stateAt h p order session k).stepOutputs.lookup i = none
  calls : (stateAt h p order session k).toolCalls.Perm
    ((p.steps.filter fun s => level p s.stepId < k).map (callOf h p order session))

theorem filter_lt_succ (k : Nat) :
    (p.steps.filter fun s => level p s.stepId < k + 1).Perm
      ((p.steps.filter fun s => level p s.stepId < k) ++
        p.steps.filter fun s => level p s.stepId = k) := by
  apply (List.filter_append_perm (fun s => decide (level p s.stepId < k)) _).symm.trans
  rw [List.filter_filter, List.filter_filter]
  apply List.Perm.append
  · apply List.Perm.of_eq
    apply List.filter_congr
    intro s _
    simp only [← Bool.decide_and, decide_eq_decide]
    omega
  · apply List.Perm.of_eq
    apply List.filter_congr
    intro s _
    simp only [← decide_not, ← Bool.decide_and, decide_eq_decide]
    omega

theorem progress_zero : Progress h p order session 0 where
  carried := rfl
  outputs _ _ := rfl
  known _ _ := rfl
  calls := by simp [stateAt, Encoding.stateAt]

theorem progress_succ {k : Nat} (before : Progress h p order session k) :
    Progress h p order session (k + 1) := by
  obtain ⟨ss, perm, merged⟩ := stateAt_succ h p order session k
  have inside (s : PlanStep) : s ∈ ss ↔ s ∈ p.steps ∧ level p s.stepId = k :=
    perm.mem_iff.trans (encoding h p).mem_layer
  have distinct : (ss.map fun s => s.stepId).Nodup := by
    rw [(perm.map _).nodup_iff]
    exact (valid p).distinct.sublist (List.filter_sublist.map _)
  obtain ⟨same, calls, values, others⟩ :=
    foldl_mergeUpdate (valueOf h p order session) (callOf h p order session) ss distinct
      (stateAt h p order session k)
  refine ⟨?_, ?_, ?_, ?_⟩
  · rw [merged]
    exact same.trans before.carried
  · intro s mem
    rw [merged]
    by_cases here : level p s.stepId = k
    · rw [if_pos (by omega)]
      exact values s ((inside s).mpr ⟨mem, here⟩)
    · have away : s.stepId ∉ ss.map fun s => s.stepId := by
        intro listed
        obtain ⟨s', mem', equal⟩ := List.mem_map.mp listed
        obtain ⟨known, there⟩ := (inside s').mp mem'
        exact here (equal ▸ there)
      refine (others _ away).trans ((before.outputs s mem).trans ?_)
      have : level p s.stepId < k + 1 ↔ level p s.stepId < k := by omega
      simp only [this]
  · intro i unknown
    rw [merged]
    refine (others i ?_).trans (before.known i unknown)
    intro listed
    obtain ⟨s, mem, rfl⟩ := List.mem_map.mp listed
    exact unknown (mem_stepIds.mpr ⟨s, ((inside s).mp mem).1, rfl⟩)
  · rw [merged]
    refine (List.Perm.of_eq calls).trans ((before.calls.append (perm.map _)).trans ?_)
    refine List.Perm.trans ?_ ((filter_lt_succ p k).map _).symm
    rw [List.map_append]
    exact List.Perm.refl _

theorem progress (k : Nat) : Progress h p order session k := by
  induction k with
  | zero => exact progress_zero h p order session
  | succ k ih => exact progress_succ h p order session ih

/-! ## The whole run -/

theorem height_le_length : height p ≤ p.steps.length := by
  rw [← (layers_perm p).length_eq, List.length_flatten]
  calc height p = (((List.range (height p)).map (layer p)).map List.length).length := by simp
    _ ≤ _ := List.length_le_sum_of_one_le _ fun n mem => by
      obtain ⟨_, listed, rfl⟩ := List.mem_map.mp mem
      obtain ⟨k, lt, rfl⟩ := List.mem_map.mp listed
      exact List.length_pos_iff.mpr (layer_nonempty p (List.mem_range.mp lt))

theorem layer_perm (k : Nat) : ((encoding h p).layer k).Perm (layer p k) := by
  have nodup : (layer p k).Nodup := (layer_map_stepId p k ▸ layerIds_nodup p k).of_map
  have nodup' : ((encoding h p).layer k).Nodup := (steps_nodup p).filter _
  rw [List.perm_ext_iff_of_nodup nodup' nodup]
  intro s
  rw [mem_layer]
  exact (encoding h p).mem_layer

theorem invokePlanGraph_eq : invokePlanGraph h.toHandlers p order session =
    ((List.range (height p)).map ((encoding h p).tasksAt order ⟨∅, [], session⟩),
      .finished (stateAt h p order session (height p))) := by
  have full : ∀ k < height p, (encoding h p).layer k ≠ [] := by
    intro k lt empty
    have perm := layer_perm h p k
    rw [empty] at perm
    exact layer_nonempty p lt perm.symm.eq_nil
  obtain ⟨extra, fuel⟩ := Nat.exists_eq_add_of_le (height_le_length p)
  rw [invokePlanGraph, fuel, Nat.add_right_comm]
  exact (encoding h p).run_eq order _ (height p) (fun s mem => level_lt_height p mem) full extra

end

def taskOf {ω : Type} (h : LawfulHandlers ω) (s : PlanStep) (state : ExecState) : PlanTask ω :=
  ⟨stepNodeName s, state, makeStepNode h.toHandlers s state⟩

def ownResult {ω : Type} (h : LawfulHandlers ω) (s : PlanStep) (state : ExecState) :
    Except PyExc StepValue :=
  (dispatchStep h.toHandlers s state.stepOutputs state.session).out

/-- Each node runs once, in the superstep of its layer, on `input`, and nothing is lost. -/
structure ExactlyOnce {ω : Type} (h : LawfulHandlers ω) (p : Plan) (session : Option SessionContext)
    (layers : List (List PlanStep)) (input : PlanStep → ExecState)
    (history : List (List (PlanTask ω))) (final : ExecState) : Prop where
  partition : layers.flatten.Perm p.steps
  supersteps : List.Forall₂
    (fun tasks layer => tasks.Perm (layer.map fun s => taskOf h s (input s))) history layers
  succeeds : ∀ s ∈ p.steps, (makeStepNode h.toHandlers s (input s)).out =
    .ok (stepUpdate s (stepValue (ownResult h s (input s))) (stepCall s (ownResult h s (input s))))
  sessions : ∀ s ∈ p.steps, (input s).session = session
  dependencies : ∀ s ∈ p.steps, ∀ a ∈ p.steps, a.stepId ∈ s.dependsOn →
    (input s).stepOutputs.lookup a.stepId = some (stepValue (ownResult h a (input a)))
  keys : final.stepOutputs.keys.Perm (p.steps.map fun s => s.stepId)
  outputs : ∀ s ∈ p.steps,
    final.stepOutputs.lookup s.stepId = some (stepValue (ownResult h s (input s)))
  calls : final.toolCalls.Perm (p.steps.map fun s => stepCall s (ownResult h s (input s)))

theorem exactlyOnce {ω : Type} (h : LawfulHandlers ω) (p : Plan) (order : MergeOrder Update)
    (session : Option SessionContext) :
    ExactlyOnce h p session ((List.range (height p)).map (layer p)) (inputOf h p order session)
      ((List.range (height p)).map ((encoding h p).tasksAt order ⟨∅, [], session⟩))
      (stateAt h p order session (height p)) := by
  have last := progress h p order session (height p)
  have done : ∀ s ∈ p.steps, (stateAt h p order session (height p)).stepOutputs.lookup s.stepId =
      some (valueOf h p order session s) := by
    intro s mem
    rw [last.outputs s mem, if_pos (level_lt_height p mem)]
  refine ⟨layers_perm p, ?_, ?_, ?_, ?_, ?_, done, ?_⟩
  · rw [List.forall₂_map_left_iff, List.forall₂_map_right_iff, List.forall₂_same]
    intro k _
    refine List.Perm.trans (List.Perm.of_eq ?_) ((layer_perm h p k).map _)
    apply List.map_congr_left
    intro s mem
    obtain ⟨inside, rfl⟩ := (encoding h p).mem_layer.mp mem
    rw [taskOf, ← nodeNames_eq p inside]
    rfl
  · exact fun s _ => makeStepNode_ok h s _
  · exact fun s _ => (progress h p order session (level p s.stepId)).carried
  · intro s mem a inside dependsOn
    have below := (level_le_iff p mem).mp le_rfl a.stepId dependsOn
    rw [inputOf, (progress h p order session (level p s.stepId)).outputs a inside, if_pos below]
    rfl
  · rw [List.perm_ext_iff_of_nodup (AList.keys_nodup _) (valid p).distinct]
    intro i
    rw [← AList.mem_keys, ← AList.lookup_isSome]
    by_cases known : i ∈ stepIds p.steps
    · obtain ⟨s, mem, rfl⟩ := mem_stepIds.mp known
      rw [done s mem]
      exact iff_of_true rfl (List.mem_map_of_mem mem)
    · rw [last.known i known]
      refine iff_of_false (by simp) fun listed => known ?_
      exact List.mem_toFinset.mpr listed
  · refine last.calls.trans (List.Perm.of_eq ?_)
    rw [List.filter_eq_self.mpr fun s mem => by simpa using level_lt_height p mem]
    rfl

/-- For every handler, accepted plan and merge order, the compiled graph runs each step once, in the
superstep of its layer, never raises, and keeps the result and the call of every step. -/
theorem plan_runs_exactly_once {ω : Type} (h : LawfulHandlers ω) (p : Plan) (order : MergeOrder Update)
    (session : Option SessionContext) :
    ∃ layers input history final, p.topologicalLayers = .ok layers ∧
      invokePlanGraph h.toHandlers p order session = (history, .finished final) ∧
      ExactlyOnce h p session layers input history final :=
  ⟨_, _, _, _, topologicalLayers_eq p, invokePlanGraph_eq h p order session,
    exactlyOnce h p order session⟩

end RealityAI.Proof.Plan
