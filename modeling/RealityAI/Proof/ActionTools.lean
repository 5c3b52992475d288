import RealityAI.Model.ActionTools
import RealityAI.Proof.Invocation

namespace RealityAI.Proof.ActionTools
open Library Python Model.Safety Model.Schemas Model.State Model.PlanningAgent Model.ActionAgent
open Model.ActionTools InnerSafety ActionAgent Invocation

section
variable {σ α : Type} {call : Except PyExc α × σ} {returned : α → Dict} {mock : Dict}

theorem orMock_snd : (orMock call returned mock).2 = call.2 := by
  obtain ⟨result, s⟩ := call
  cases result <;> rfl

theorem orMock_ok {d : Dict} (ok : (orMock call returned mock).1 = .ok d) :
    (∃ result, d = returned result) ∨ d = mock := by
  obtain ⟨result, s⟩ := call
  cases result with
  | ok a => exact .inl ⟨a, (Except.ok.inj ok).symm⟩
  | error e =>
      change (if e.cls = .rpcError then .ok mock else .error e) = Except.ok d at ok
      split at ok
      · exact .inr (Except.ok.inj ok).symm
      · cases ok

variable {client : CoreServiceClient σ} {s : σ} {hex : String}

theorem functions_undenied {call : WriteCall} {d : Dict}
    (ok : functions client s hex call = .ok d) : Dict.get d "denied_by_inner_safety" = .null := by
  cases call with
  | gradeUpdate => rcases orMock_ok ok with ⟨result, rfl⟩ | rfl <;> rfl
  | enrollmentModify studentId courseId action =>
      simp only [functions, runCall, enrollmentModify] at ok
      split at ok
      · rcases orMock_ok ok with ⟨result, rfl⟩ | rfl <;> rfl
      · rcases orMock_ok ok with ⟨result, rfl⟩ | rfl <;> rfl
  | assignmentCreate => rcases orMock_ok ok with ⟨result, rfl⟩ | rfl <;> rfl

end

theorem denied_text (operation : String) (result : InnerSafetyResult) :
    ∃ text, errorField (denialText (deniedByInnerSafety operation result)) = .ok text := by
  have text : denialText (deniedByInnerSafety operation result) =
      (Json.str result.finalReasonHuman).or (.str result.finalReasonCode) := rfl
  rw [text, Json.or]
  split
  · exact ⟨_, rfl⟩
  · exact ⟨_, rfl⟩

theorem executed_undenied (operation : String) (result : InnerSafetyResult)
    {returned : Except PyExc Returned} (undenied : ∀ raw, returned = .ok (.dict raw) →
      Dict.get raw "denied_by_inner_safety" = .null) :
    Dict.get (stepDict operation (.executed result returned)) "denied_by_inner_safety" = .null := by
  rcases returned with e | handed
  · rfl
  · cases handed with
    | toolMessage => rfl
    | dict raw => exact (Dict.get_set_other (by decide)).trans (undenied raw rfl)

theorem runActionStep_denial (rt : Runtime) {w : World}
    (undenied : ∀ call d, w.functions call = .ok d →
      Dict.get d "denied_by_inner_safety" = .null)
    {step : PlanStep} {session : Option SessionContext} {d : Dict}
    (ok : (runActionStep rt w step session).out = .ok d)
    (denied : (Dict.get d "denied_by_inner_safety").truthy = true) :
    ∃ text, errorField (denialText d) = .ok text := by
  cases known : actionTools.lookup (step.actionTool.getD "") with
  | none =>
      unfold runActionStep at ok
      dsimp only at ok
      rw [known] at ok
      split at ok <;> cases ok
  | some tool =>
      rw [runActionStep_eq rt w step session known] at ok
      obtain ⟨a, made, ok⟩ := Eff.bind_out_ok.mp ok
      cases ok
      have run := attemptRun .planned rt w (stepInput step session)
      generalize attempt .planned rt w (stepInput step session) = x at run made
      cases run with
      | raised => cases made
      | denied layerResults first =>
          cases made
          exact denied_text _ _
      | executed tool' layerResults allowed name =>
          cases made
          rw [executed_undenied _ _ fun raw handed => by
            obtain ⟨call, ran⟩ := outcome_dict handed
            exact undenied call raw ran] at denied
          cases denied
      | lost _ planned => cases planned

/-- The handlers of a plan, with the registered functions over a service; `service step` is its
state when the function of the step is called. -/
def lawfulPlanHandlers {σ : Type} (rt : Runtime) (langChain : LangChain)
    (client : CoreServiceClient σ) (service : PlanStep → σ) (read : PlanStep → ReadCourse)
    (stamp : PlanStep → Stamp) (hex : PlanStep → String)
    (query reasoning solver : PlanStep → StepOutputs → Except PyExc StepValue) :
    LawfulHandlers Event where
  toHandlers := planHandlers rt
    (fun step => ⟨read step, langChain, functions client (service step) (hex step), stamp step⟩)
    query reasoning solver
  denial _ _ _ _ ok denied := runActionStep_denial rt (fun _ _ => functions_undenied) ok denied

end RealityAI.Proof.ActionTools
