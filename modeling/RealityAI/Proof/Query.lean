import RealityAI.Model.QueryAgent
import RealityAI.Proof.ContentIsolation
import RealityAI.Proof.Plan.Acceptance

namespace RealityAI.Proof.Query
open Library Python Model.Schemas Model.State Model.Safety Model.PlanningAgent Model.ActionAgent
open Model.QueryAgent Plan InnerSafety

def sourceField (decision : Dict) : Json := (Dict.get? decision "source").getD (.str "")

def paramsField (decision : Dict) : Json :=
  ((Dict.get? decision "params").getD (.obj [])).or (.obj [])

def queryTypeField (decision : Dict) : Json := (Dict.get? decision "query_type").getD (.str "")

theorem strField_returns_iff (v : Json) : Returns (strField v) ↔ ∃ s, v = .str s := by
  unfold strField
  split
  · rename_i s
    exact iff_of_true (returns_ok s) ⟨s, rfl⟩
  · rename_i other
    exact iff_of_false (returns_error _) fun ⟨s, same⟩ => other s same

theorem strField_or_returns_iff (v : Json) :
    Returns (strField (v.or (.str ""))) ↔ FalsyOrText v := by
  rw [strField_returns_iff, Json.or, FalsyOrText]
  split
  · rename_i truthy
    simp [truthy]
  · rename_i falsy
    simp [falsy]

theorem or_or (v w : Json) : (v.or w).or w = v.or w := by
  unfold Json.or
  split
  · rfl
  · exact ite_self _

theorem params_get (fields : Dict) (key : String) :
    Params.get ((Dict.items fields).map fun entry => (entry.1, .json entry.2)) key =
      .json (Dict.get fields key) := by
  rw [Params.get, Params.get?, items_lookup]
  split
  · rfl
  · rename_i absent
    rw [Dict.keys, List.mem_dedup] at absent
    have missing : Dict.get? fields key = none := by
      apply List.lookup_eq_none_iff.mpr
      intro entry mem
      apply bne_iff_ne.mpr
      intro same
      exact absent (same ▸ List.mem_map_of_mem mem)
    simp [Dict.get, missing]

def routed (text : String) (decision : Dict) : Model.QueryAgent.InternalState where
  userMessage := text
  selectedSource := some (sourceField decision)
  sourceParams := some (paramsField decision)
  queryType := some (queryTypeField decision)

section
variable (b : Builtins) (t : ObjectTexts) (stores : DataStores) (random : RandomBytes)

def answered (s : Model.QueryAgent.InternalState) : Model.QueryAgent.InternalState :=
  formatQueryResponse b random (executeQueryTool b t stores s)

theorem answered_keeps (s : Model.QueryAgent.InternalState) :
    (answered b t stores random s).selectedSource = s.selectedSource ∧
      (answered b t stores random s).queryType = s.queryType := by
  have executed : (executeQueryTool b t stores s).selectedSource = s.selectedSource ∧
      (executeQueryTool b t stores s).queryType = s.queryType := by
    unfold executeQueryTool
    dsimp only
    split
    · exact ⟨rfl, rfl⟩
    · split
      · exact ⟨rfl, rfl⟩
      · split <;> exact ⟨rfl, rfl⟩
  unfold answered formatQueryResponse
  split
  · exact executed
  · exact executed

variable {content text : String} {state : AgentView} (known : queryInput state = .ok text)
include known

theorem runQueryAgent_object (decision : Dict) :
    runQueryAgent b t stores random (Loads.reply content (.value (.obj decision))) state = do
      let selectedSource ← strField ((sourceField decision).or (.str ""))
      let queryType ← strField ((queryTypeField decision).or (.str ""))
      let final := answered b t stores random (routed text decision)
      return queryResult { response := final.responseText.getD "", success := final.success.getD false,
                           selectedSource, queryType } := by
  obtain ⟨source, queryType⟩ := answered_keeps b t stores random (routed text decision)
  unfold runQueryAgent
  rw [known]
  show (queryOutput (answered b t stores random (routed text decision)) >>= fun output =>
    pure (queryResult output)) = _
  unfold queryOutput
  rw [source, queryType]
  simp only [routed, Option.getD_some]
  cases strField ((sourceField decision).or (.str "")) with
  | error e => rfl
  | ok _ => cases strField ((queryTypeField decision).or (.str "")) <;> rfl

theorem runQueryAgent_raises {reply : Except PyExc Reply} {e : PyExc}
    (failed : (reply >>= fun reply => routeQuery reply { userMessage := text }) = .error e) :
    runQueryAgent b t stores random reply state = .error e := by
  unfold runQueryAgent
  rw [known]
  cases reply with
  | error e' =>
      cases failed
      rfl
  | ok reply =>
      have raised : routeQuery reply { userMessage := text } = .error e := failed
      show ((routeQuery reply { userMessage := text } >>= _) >>= _) = _
      rw [raised]
      rfl

theorem runQueryAgent_text : ∃ result, ∀ stores,
    runQueryAgent b t stores random (Loads.reply content .decodeError) state = .ok result := by
  refine ⟨⟨.str (if content = "" then "Unknown data source: " else content), []⟩, fun stores => ?_⟩
  unfold runQueryAgent
  rw [known]
  by_cases empty : content = ""
  · subst empty
    rfl
  · have spoken : (content != "") = true := bne_iff_ne.mpr empty
    have kept (s : Model.QueryAgent.InternalState) (source : s.selectedSource = some (.str ""))
        (spoke : s.responseText = some content) : answered b t stores random s = s := by
      have responded : s.responded = true := by
        rw [InternalState.responded, spoke]
        exact spoken
      have skipped : executeQueryTool b t stores s = s := by
        simp [executeQueryTool, responded, source, Json.truthy]
      rw [answered, skipped, formatQueryResponse, if_pos responded]
    show (queryOutput (answered b t stores random _) >>= fun output => pure (queryResult output)) = _
    rw [kept _ rfl rfl, if_neg empty]
    rfl

end

end RealityAI.Proof.Query
