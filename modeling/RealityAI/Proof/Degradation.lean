import RealityAI.Model.ActionAgent
import RealityAI.Model.Degradation

/-!
# Attempts, retries and the escalation
-/

namespace RealityAI.Proof.Degradation
open Library Python Model.Degradation

/-! ## One attempt -/

def calls (result : AgentResult) : List AttemptedCall := result.toolCalls.getD []

def toolNames (result : AgentResult) : List String := (calls result).map AttemptedCall.toolName

def failureOf (b : Builtins) (contextIds : Option (List String)) (result : AgentResult) :
    Option FailureResult :=
  checkForFailures b contextIds (result.response.getD "") (calls result)

inductive Attempted where
  | escapes (e : PyExc)
  | succeeds (result : AgentResult)
  | fails (failure : FailureResult) (tools : List String)

section
variable (b : Builtins) (agentFn : Nat → Except PyExc AgentResult) (contextIds : Option (List String))

def attempted (n : Nat) : Attempted :=
  match agentFn n with
  | .error e => if e.cls = .timeoutError then .fails timeoutFailure [] else .escapes e
  | .ok result =>
      match failureOf b contextIds result with
      | none => .succeeds result
      | some failure => .fails failure (toolNames result)

def Attempted.Fails (attempt : Attempted) : Prop := ∃ failure tools, attempt = .fails failure tools

def Attempted.stop : Attempted → Except PyExc (AgentResult ⊕ Progress)
  | .escapes e => .error e
  | .succeeds result => .ok (.inl result)
  | .fails _ _ => .ok (.inr {})

theorem attempts_stop {n : Nat} (stops : ¬ (attempted b agentFn contextIds n).Fails)
    (rest : List Nat) (progress : Progress) :
    attempts b agentFn contextIds (n :: rest) progress =
      ⟨[n], (attempted b agentFn contextIds n).stop⟩ := by
  unfold attempts
  rw [Eff.bind_ok (Eff.emit_out n), Eff.emit_log]
  unfold attempted failureOf calls at stops ⊢
  cases returned : agentFn n with
  | error e =>
      simp only [returned] at stops ⊢
      by_cases timeout : e.cls = .timeoutError
      · rw [if_pos timeout] at stops
        exact absurd ⟨_, _, rfl⟩ stops
      · rw [if_neg timeout, if_neg timeout]
        rfl
  | ok result =>
      simp only [returned] at stops ⊢
      cases found : checkForFailures b contextIds (result.response.getD "")
          (result.toolCalls.getD []) with
      | none => rfl
      | some failure =>
          rw [found] at stops
          exact absurd ⟨_, _, rfl⟩ stops

theorem attempts_fail {n : Nat} {failure : FailureResult} {tools : List String}
    (fails : attempted b agentFn contextIds n = .fails failure tools) (rest : List Nat)
    (progress : Progress) :
    attempts b agentFn contextIds (n :: rest) progress =
      ⟨n :: (attempts b agentFn contextIds rest
          ⟨progress.errors ++ [failure], progress.toolsAttempted ++ tools⟩).log,
        (attempts b agentFn contextIds rest
          ⟨progress.errors ++ [failure], progress.toolsAttempted ++ tools⟩).out⟩ := by
  conv_lhs => unfold attempts
  rw [Eff.bind_ok (Eff.emit_out n), Eff.emit_log]
  unfold attempted failureOf toolNames calls at fails
  cases returned : agentFn n with
  | error e =>
      simp only [returned] at fails ⊢
      by_cases timeout : e.cls = .timeoutError
      · rw [if_pos timeout] at fails
        obtain ⟨rfl, rfl⟩ := Attempted.fails.inj fails
        rw [if_pos timeout, List.append_nil]
        rfl
      · rw [if_neg timeout] at fails
        cases fails
  | ok result =>
      simp only [returned] at fails ⊢
      cases found : checkForFailures b contextIds (result.response.getD "")
          (result.toolCalls.getD []) with
      | none =>
          rw [found] at fails
          cases fails
      | some found' =>
          rw [found] at fails
          obtain ⟨rfl, rfl⟩ := Attempted.fails.inj fails
          rfl

/-! ## The run -/

def failures (n : Nat) : List FailureResult :=
  match attempted b agentFn contextIds n with
  | .fails failure _ => [failure]
  | _ => []

def tools (n : Nat) : List String :=
  match attempted b agentFn contextIds n with
  | .fails _ tools => tools
  | _ => []

theorem attempts_all_fail (ns : List Nat)
    (fail : ∀ n ∈ ns, (attempted b agentFn contextIds n).Fails) (progress : Progress) :
    attempts b agentFn contextIds ns progress =
      ⟨ns, .ok (.inr ⟨progress.errors ++ ns.flatMap (failures b agentFn contextIds),
        progress.toolsAttempted ++ ns.flatMap (tools b agentFn contextIds)⟩)⟩ := by
  induction ns generalizing progress with
  | nil => simp [attempts, pure]
  | cons n ns ih =>
      obtain ⟨⟨failure, calls, fails⟩, later⟩ := List.forall_mem_cons.mp fail
      rw [attempts_fail b agentFn contextIds fails, ih later]
      simp [failures, tools, fails]

theorem attempts_until (before : List Nat) {n : Nat} (rest : List Nat)
    (fail : ∀ m ∈ before, (attempted b agentFn contextIds m).Fails)
    (stops : ¬ (attempted b agentFn contextIds n).Fails) (progress : Progress) :
    attempts b agentFn contextIds (before ++ n :: rest) progress =
      ⟨before ++ [n], (attempted b agentFn contextIds n).stop⟩ := by
  induction before generalizing progress with
  | nil => exact attempts_stop b agentFn contextIds stops rest progress
  | cons m before ih =>
      obtain ⟨⟨failure, calls, fails⟩, later⟩ := List.forall_mem_cons.mp fail
      rw [List.cons_append, attempts_fail b agentFn contextIds fails, ih later]
      rfl

def finish (agentType userQuery : String) : AgentResult ⊕ Progress → Degraded
  | .inl result => .result result
  | .inr progress => escalate agentType userQuery progress

theorem execute_eq (agentType userQuery : String) :
    executeWithDegradation b agentFn contextIds agentType userQuery =
      ⟨(attempts b agentFn contextIds [0, 1] {}).log,
        (attempts b agentFn contextIds [0, 1] {}).out.map (finish agentType userQuery)⟩ := by
  have range : List.range (maxRetries + 1) = [0, 1] := rfl
  unfold executeWithDegradation
  rw [range]
  cases ended : (attempts b agentFn contextIds [0, 1] {}).out with
  | error e => rw [Eff.bind_error ended, Except.map]
  | ok out =>
      rw [Eff.bind_ok ended]
      cases out with
      | inl result => simp [Except.map, finish]
      | inr progress => simp [Except.map, finish]

/-! ## What an attempt shows -/

def Succeeds (n : Nat) (result : AgentResult) : Prop :=
  agentFn n = .ok result ∧ failureOf b contextIds result = none

/-- The failure that an attempt is reported with; nothing is fixed for an attempt that raises. -/
def Reports (n : Nat) (failure : FailureResult) : Prop :=
  match agentFn n with
  | .ok result => failureOf b contextIds result = some failure
  | .error e => e.cls = .timeoutError → failure = timeoutFailure

def Handled (n : Nat) : Prop := ∀ e, agentFn n = .error e → e.cls = .timeoutError

inductive Shows (n : Nat) : Attempted → Prop
  | escapes {e : PyExc} : agentFn n = .error e → e.cls ≠ .timeoutError → Shows n (.escapes e)
  | succeeds {result : AgentResult} : Succeeds b agentFn contextIds n result →
      Shows n (.succeeds result)
  | timedOut {e : PyExc} : agentFn n = .error e → e.cls = .timeoutError →
      Shows n (.fails timeoutFailure [])
  | detected {result : AgentResult} {failure : FailureResult} : agentFn n = .ok result →
      failureOf b contextIds result = some failure → Shows n (.fails failure (toolNames result))

theorem attempted_shows (n : Nat) :
    Shows b agentFn contextIds n (attempted b agentFn contextIds n) := by
  unfold attempted
  cases returned : agentFn n with
  | error e =>
      dsimp only
      split
      · rename_i timeout
        exact .timedOut returned timeout
      · rename_i other
        exact .escapes returned other
  | ok result =>
      dsimp only
      split
      · rename_i none
        exact .succeeds ⟨returned, none⟩
      · rename_i found
        exact .detected returned found

end

section
variable {b : Builtins} {agentFn : Nat → Except PyExc AgentResult}
  {contextIds : Option (List String)} {n : Nat}

theorem fails_of (handled : Handled agentFn n)
    (unsuccessful : ∀ result, ¬ Succeeds b agentFn contextIds n result) :
    (attempted b agentFn contextIds n).Fails := by
  have shows := attempted_shows b agentFn contextIds n
  generalize attempted b agentFn contextIds n = attempt at shows ⊢
  cases shows with
  | escapes raised other => exact absurd (handled _ raised) other
  | succeeds success => exact absurd success (unsuccessful _)
  | timedOut _ _ => exact ⟨_, _, rfl⟩
  | detected _ _ => exact ⟨_, _, rfl⟩

theorem attempted_of_succeeds {result : AgentResult}
    (success : Succeeds b agentFn contextIds n result) :
    attempted b agentFn contextIds n = .succeeds result := by
  unfold attempted
  rw [success.1]
  dsimp only
  rw [success.2]

theorem failures_reports (fails : (attempted b agentFn contextIds n).Fails) :
    ∃ failure, failures b agentFn contextIds n = [failure] ∧
      Reports b agentFn contextIds n failure := by
  have shows := attempted_shows b agentFn contextIds n
  unfold failures Reports
  generalize attempted b agentFn contextIds n = attempt at shows fails ⊢
  obtain ⟨failure, tools, rfl⟩ := fails
  refine ⟨failure, rfl, ?_⟩
  cases shows with
  | timedOut raised timeout =>
      rw [raised]
      exact fun _ => rfl
  | detected returned found =>
      rw [returned]
      exact found

theorem mem_tools_iff (fails : (attempted b agentFn contextIds n).Fails) (name : String) :
    name ∈ tools b agentFn contextIds n ↔
      ∃ result, agentFn n = .ok result ∧ name ∈ toolNames result := by
  have shows := attempted_shows b agentFn contextIds n
  unfold tools
  generalize attempted b agentFn contextIds n = attempt at shows fails ⊢
  obtain ⟨failure, tools, rfl⟩ := fails
  cases shows with
  | timedOut raised timeout =>
      rw [raised]
      exact ⟨nofun, nofun⟩
  | detected returned found =>
      constructor
      · intro mem
        exact ⟨_, returned, mem⟩
      · intro ⟨result, returned', mem⟩
        cases returned.symm.trans returned'
        exact mem

end

/-! ## The whole execution -/

section
variable (b : Builtins) (agentFn : Nat → Except PyExc AgentResult) (contextIds : Option (List String))
  (agentType userQuery : String)

structure Escalates (ticket : EscalationTicket) : Prop where
  errors : ∃ first second, ticket.errors = [first, second] ∧
    Reports b agentFn contextIds 0 first ∧ Reports b agentFn contextIds 1 second
  distinct : ticket.toolsAttempted.Nodup
  tools : ∀ name, name ∈ ticket.toolsAttempted ↔
    ∃ n < 2, ∃ result, agentFn n = .ok result ∧ name ∈ toolNames result

structure Degrades (run : Eff PyExc Nat Degraded) : Prop where
  returns : ∃ outcome, run.out = .ok outcome
  invocations : run.log.length ≤ 2
  firstSuccess : ∀ n < 2, ∀ result, Succeeds b agentFn contextIds n result →
    (∀ m < n, ∀ earlier, ¬ Succeeds b agentFn contextIds m earlier) →
    run.out = .ok (.result result)
  escalation : (∀ n < 2, ∀ result, ¬ Succeeds b agentFn contextIds n result) →
    ∃ response toolCalls ticket, run.out = .ok (.escalation response toolCalls ticket) ∧
      Escalates b agentFn contextIds ticket

inductive Execution : Eff PyExc Nat Degraded → Prop
  | first {attempt : Attempted} : attempted b agentFn contextIds 0 = attempt → ¬ attempt.Fails →
      Execution ⟨[0], attempt.stop.map (finish agentType userQuery)⟩
  | second {attempt : Attempted} : (attempted b agentFn contextIds 0).Fails →
      attempted b agentFn contextIds 1 = attempt → ¬ attempt.Fails →
      Execution ⟨[0, 1], attempt.stop.map (finish agentType userQuery)⟩
  | escalated : (attempted b agentFn contextIds 0).Fails → (attempted b agentFn contextIds 1).Fails →
      Execution ⟨[0, 1], .ok (escalate agentType userQuery
        ⟨failures b agentFn contextIds 0 ++ failures b agentFn contextIds 1,
          tools b agentFn contextIds 0 ++ tools b agentFn contextIds 1⟩)⟩

theorem execution : Execution b agentFn contextIds agentType userQuery
    (executeWithDegradation b agentFn contextIds agentType userQuery) := by
  rw [execute_eq]
  by_cases first : (attempted b agentFn contextIds 0).Fails
  · have before : ∀ m ∈ [0], (attempted b agentFn contextIds m).Fails := by
      intro m mem
      rw [List.mem_singleton.mp mem]
      exact first
    by_cases second : (attempted b agentFn contextIds 1).Fails
    · have all : ∀ m ∈ [0, 1], (attempted b agentFn contextIds m).Fails :=
        List.forall_mem_cons.mpr ⟨first, List.forall_mem_cons.mpr ⟨second, nofun⟩⟩
      rw [attempts_all_fail b agentFn contextIds [0, 1] all]
      simp only [List.flatMap_cons, List.flatMap_nil, List.append_nil, List.nil_append]
      exact .escalated first second
    · have run := attempts_until b agentFn contextIds [0] [] before second {}
      rw [List.singleton_append] at run
      rw [run]
      exact .second first rfl second
  · rw [attempts_stop b agentFn contextIds first]
    exact .first rfl first

theorem escalates_of_fail (first : (attempted b agentFn contextIds 0).Fails)
    (second : (attempted b agentFn contextIds 1).Fails) :
    ∃ response toolCalls ticket,
      escalate agentType userQuery
        ⟨failures b agentFn contextIds 0 ++ failures b agentFn contextIds 1,
          tools b agentFn contextIds 0 ++ tools b agentFn contextIds 1⟩ =
        .escalation response toolCalls ticket ∧ Escalates b agentFn contextIds ticket := by
  obtain ⟨failure, once, report⟩ := failures_reports first
  obtain ⟨failure', once', report'⟩ := failures_reports second
  refine ⟨_, _, _, rfl, ⟨failure, failure', ?_, report, report'⟩, List.nodup_dedup _, ?_⟩
  · dsimp only
    rw [once, once']
    rfl
  · intro name
    dsimp only
    rw [List.mem_dedup, List.mem_append, mem_tools_iff first, mem_tools_iff second]
    constructor
    · rintro (named | named)
      · exact ⟨0, by omega, named⟩
      · exact ⟨1, by omega, named⟩
    · intro ⟨n, bound, named⟩
      have either : n = 0 ∨ n = 1 := by omega
      rcases either with rfl | rfl
      · exact Or.inl named
      · exact Or.inr named

variable {b agentFn contextIds}

theorem not_succeeds_of_fails {n : Nat} (fails : (attempted b agentFn contextIds n).Fails)
    (result : AgentResult) : ¬ Succeeds b agentFn contextIds n result := by
  intro success
  obtain ⟨failure, tools, same⟩ := fails
  rw [attempted_of_succeeds success] at same
  cases same

theorem handled_of_fails {n : Nat} (fails : (attempted b agentFn contextIds n).Fails) :
    Handled agentFn n := by
  intro e raised
  obtain ⟨failure, tools, same⟩ := fails
  unfold attempted at same
  rw [raised] at same
  dsimp only at same
  by_contra other
  rw [if_neg other] at same
  cases same

theorem handled_of_stop {n : Nat} (stops : ¬ (attempted b agentFn contextIds n).Fails)
    {outcome : AgentResult ⊕ Progress}
    (returns : (attempted b agentFn contextIds n).stop = .ok outcome) :
    Handled agentFn n ∧ ∃ result, Succeeds b agentFn contextIds n result := by
  have shows := attempted_shows b agentFn contextIds n
  generalize attempted b agentFn contextIds n = attempt at shows stops returns
  cases shows with
  | escapes _ _ => cases returns
  | timedOut _ _ => exact absurd ⟨_, _, rfl⟩ stops
  | detected _ _ => exact absurd ⟨_, _, rfl⟩ stops
  | succeeds success =>
      cases returns
      refine ⟨fun e raised => ?_, _, success⟩
      cases success.1.symm.trans raised

theorem stop_of_handled {n : Nat} (handled : Handled agentFn n)
    (stops : ¬ (attempted b agentFn contextIds n).Fails) :
    ∃ result, Succeeds b agentFn contextIds n result := by
  by_contra none
  exact stops (fails_of handled fun result success => none ⟨result, success⟩)

theorem succeeds_unique {n : Nat} {result result' : AgentResult}
    (success : Succeeds b agentFn contextIds n result)
    (success' : Succeeds b agentFn contextIds n result') : result = result' :=
  Except.ok.inj (success.1.symm.trans success'.1)

theorem map_ok {out : Except PyExc (AgentResult ⊕ Progress)} {outcome : Degraded}
    (returned : out.map (finish agentType userQuery) = .ok outcome) : ∃ ended, out = .ok ended := by
  cases out with
  | error e => cases returned
  | ok ended => exact ⟨ended, rfl⟩

theorem degrades_first {result : AgentResult} (success : Succeeds b agentFn contextIds 0 result) :
    Degrades b agentFn contextIds ⟨[0], .ok (.result result)⟩ where
  returns := ⟨_, rfl⟩
  invocations := by simp
  firstSuccess := by
    intro n bound result' success' earlier
    cases n with
    | zero => rw [succeeds_unique success success']
    | succ n => exact absurd success (earlier 0 n.succ_pos result)
  escalation := fun none => absurd success (none 0 (by omega) result)

theorem degrades_second {result : AgentResult}
    (fails : ∀ result, ¬ Succeeds b agentFn contextIds 0 result)
    (success : Succeeds b agentFn contextIds 1 result) :
    Degrades b agentFn contextIds ⟨[0, 1], .ok (.result result)⟩ where
  returns := ⟨_, rfl⟩
  invocations := by simp
  firstSuccess := by
    intro n bound result' success' _
    have either : n = 0 ∨ n = 1 := by omega
    rcases either with rfl | rfl
    · exact absurd success' (fails result')
    · rw [succeeds_unique success success']
  escalation := fun none => absurd success (none 1 (by omega) result)

end

/-- The run degrades as it should if and only if no attempt that it makes raises another exception
than a timeout. -/
theorem degrades_iff (b : Builtins) (agentFn : Nat → Except PyExc AgentResult)
    (contextIds : Option (List String)) (agentType userQuery : String) :
    Degrades b agentFn contextIds
        (executeWithDegradation b agentFn contextIds agentType userQuery) ↔
      Handled agentFn 0 ∧
        ((∀ result, ¬ Succeeds b agentFn contextIds 0 result) → Handled agentFn 1) := by
  have run := execution b agentFn contextIds agentType userQuery
  generalize executeWithDegradation b agentFn contextIds agentType userQuery = ran at run ⊢
  constructor
  · intro degrades
    obtain ⟨outcome, returned⟩ := degrades.returns
    cases run with
    | first same stops =>
        subst same
        obtain ⟨ended, stopped⟩ := map_ok _ _ returned
        obtain ⟨handled, result, success⟩ := handled_of_stop stops stopped
        exact ⟨handled, fun none => absurd success (none result)⟩
    | second fails same stops =>
        subst same
        obtain ⟨ended, stopped⟩ := map_ok _ _ returned
        exact ⟨handled_of_fails fails, fun _ => (handled_of_stop stops stopped).1⟩
    | escalated first second => exact ⟨handled_of_fails first, fun _ => handled_of_fails second⟩
  · intro ⟨handled, handled'⟩
    cases run with
    | first same stops =>
        subst same
        obtain ⟨result, success⟩ := stop_of_handled handled stops
        rw [attempted_of_succeeds success]
        exact degrades_first success
    | second fails same stops =>
        subst same
        have unsuccessful := not_succeeds_of_fails fails
        obtain ⟨result, success⟩ := stop_of_handled (handled' unsuccessful) stops
        rw [attempted_of_succeeds success]
        exact degrades_second unsuccessful success
    | escalated first second =>
        obtain ⟨response, toolCalls, ticket, same, escalates⟩ :=
          escalates_of_fail b agentFn contextIds agentType userQuery first second
        rw [same]
        refine ⟨⟨_, rfl⟩, by simp, ?_, fun _ => ⟨response, toolCalls, ticket, rfl, escalates⟩⟩
        intro n bound result success _
        have either : n = 0 ∨ n = 1 := by omega
        rcases either with rfl | rfl
        · exact absurd success (not_succeeds_of_fails first result)
        · exact absurd success (not_succeeds_of_fails second result)

theorem rpc_error_escapes :
    ¬ Degrades .ascii (fun _ => .error ⟨.rpcError, "unavailable"⟩) none
      (executeWithDegradation .ascii (fun _ => .error ⟨.rpcError, "unavailable"⟩) none
        "query_agent" "When does CS101 meet?") := by
  intro degrades
  obtain ⟨outcome, returned⟩ := degrades.returns
  have escaped : (executeWithDegradation .ascii (fun _ => .error ⟨.rpcError, "unavailable"⟩) none
      "query_agent" "When does CS101 meet?").out = .error ⟨.rpcError, "unavailable"⟩ := rfl
  cases escaped.symm.trans returned

/-! ## Attempts that have written -/

def AttemptedCall.Failed (call : AttemptedCall) : Prop :=
  (call.toDict.success.getD (.bool true)).truthy = false

instance (call : AttemptedCall) : Decidable (AttemptedCall.Failed call) :=
  inferInstanceAs (Decidable (_ = false))

def CompletedWrite (result : AgentResult) : Prop :=
  ∃ call ∈ calls result, ¬ AttemptedCall.Failed call ∧
    call.toolName ∈ Model.ActionAgent.actionTools.map Prod.fst

def Detected (b : Builtins) (contextIds : Option (List String)) (result : AgentResult) : Prop :=
  detectRefusal b (result.response.getD "") = true ∨
  (∃ ids, contextIds = some ids ∧
    detectHallucination b (result.response.getD "") ids = true) ∨
  ∃ call ∈ calls result, AttemptedCall.Failed call

theorem detectToolError_none_iff (rt : Runtime) (toolCalls : List AttemptedCall) :
    detectToolError rt (toolCalls.map AttemptedCall.toDict) = none ↔
      ¬ ∃ call ∈ toolCalls, AttemptedCall.Failed call := by
  induction toolCalls with
  | nil => exact ⟨fun _ => nofun, fun _ => rfl⟩
  | cons call toolCalls ih =>
      rw [List.map_cons, detectToolError]
      by_cases failed : AttemptedCall.Failed call
      · have falsy : (call.toDict.success.getD (.bool true)).truthy = false := failed
        rw [falsy]
        exact ⟨nofun, fun none => absurd ⟨call, List.mem_cons_self, failed⟩ none⟩
      · have truthy : (call.toDict.success.getD (.bool true)).truthy = true :=
          Bool.not_eq_false _ ▸ failed
        rw [if_pos truthy, ih]
        simp [failed]

theorem detectHallucination_nil (b : Builtins) (response : String) :
    detectHallucination b response [] = false := rfl

theorem failureOf_none_iff (b : Builtins) (contextIds : Option (List String))
    (result : AgentResult) :
    failureOf b contextIds result = none ↔ ¬ Detected b contextIds result := by
  unfold failureOf checkForFailures Detected
  by_cases refusal : detectRefusal b (result.response.getD "") = true
  · rw [if_pos refusal]
    exact ⟨nofun, fun none => absurd (Or.inl refusal) none⟩
  rw [if_neg refusal]
  have hallucinates : (contextIds.any fun ids => ids ≠ [] &&
      detectHallucination b (result.response.getD "") ids) = true ↔
      ∃ ids, contextIds = some ids ∧
        detectHallucination b (result.response.getD "") ids = true := by
    cases contextIds with
    | none => simp
    | some ids =>
        cases ids with
        | nil => simp [detectHallucination_nil]
        | cons id ids => simp
  simp only [hallucinates]
  split
  · rename_i found
    exact ⟨nofun, fun none => absurd (Or.inr (Or.inl found)) none⟩
  · rename_i unfound
    rw [detectToolError_none_iff, or_iff_right refusal, or_iff_right unfound]

theorem fails_iff_detected {b : Builtins} {agentFn : Nat → Except PyExc AgentResult}
    {contextIds : Option (List String)} {n : Nat} {result : AgentResult}
    (returned : agentFn n = .ok result) :
    (attempted b agentFn contextIds n).Fails ↔ Detected b contextIds result := by
  rw [← not_iff_not, ← failureOf_none_iff]
  constructor
  · intro stops
    by_contra found
    obtain ⟨failure, found⟩ := Option.ne_none_iff_exists'.mp found
    apply stops
    unfold attempted
    rw [returned]
    dsimp only
    rw [found]
    exact ⟨_, _, rfl⟩
  · intro none fails
    exact not_succeeds_of_fails fails result ⟨returned, none⟩

/-- After an attempt that returns, whatever it has written, the agent is invoked again if and only
if it was the first and a failure is detected in it. -/
theorem invoked_again_iff (b : Builtins) (agentFn : Nat → Except PyExc AgentResult)
    (contextIds : Option (List String)) (agentType userQuery : String) {n : Nat}
    {result : AgentResult} (returned : agentFn n = .ok result) :
    (∃ later ∈ (executeWithDegradation b agentFn contextIds agentType userQuery).log, n < later) ↔
      n = 0 ∧ Detected b contextIds result := by
  have run := execution b agentFn contextIds agentType userQuery
  generalize executeWithDegradation b agentFn contextIds agentType userQuery = ran at run ⊢
  have detected : _ ↔ Detected b contextIds result := fails_iff_detected returned
  rw [← detected]
  have twice (fails : (attempted b agentFn contextIds 0).Fails) :
      (∃ later ∈ [0, 1], n < later) ↔ n = 0 ∧ (attempted b agentFn contextIds n).Fails := by
    have again : (∃ later ∈ [0, 1], n < later) ↔ n = 0 := by simp
    rw [again]
    constructor
    · rintro rfl
      exact ⟨rfl, fails⟩
    · exact And.left
  cases run with
  | first same stops =>
      subst same
      constructor
      · intro ⟨later, mem, after⟩
        rw [List.mem_singleton.mp mem] at after
        exact absurd after n.not_lt_zero
      · rintro ⟨rfl, fails⟩
        exact absurd fails stops
  | second fails same stops => exact twice fails
  | escalated fails _ => exact twice fails

def gradeWritten : AgentResult where
  response := some "Done, but I can't help with that other question."
  toolCalls := some [.object { toolName := "grade_update" }]

theorem single_write_not_repeated :
    (∃ later ∈ (executeWithDegradation .ascii (fun _ => .ok ⟨some "Done.",
        some [.object { toolName := "grade_update" }], []⟩) none "action_agent"
        "Set S001 to A").log, 0 < later) ↔
      0 = 0 ∧ Detected .ascii none
        ⟨some "Done.", some [.object { toolName := "grade_update" }], []⟩ :=
  invoked_again_iff .ascii _ none "action_agent" "Set S001 to A" rfl

theorem written_grade_repeated :
    CompletedWrite gradeWritten ∧
    (executeWithDegradation .ascii (fun _ => .ok gradeWritten) none "action_agent"
      "Set S001 to A").log = [0, 1] := by
  constructor
  · exact ⟨.object { toolName := "grade_update" }, List.mem_cons_self, by decide, by decide⟩
  · decide +kernel

end RealityAI.Proof.Degradation
