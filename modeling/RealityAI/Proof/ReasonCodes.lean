import RealityAI.Library.Regex.Words
import RealityAI.Model.PromptGuard
import RealityAI.Proof.InnerSafety
import RealityAI.Proof.OutputFilter

namespace RealityAI.Proof.ReasonCodes
open Library Library.Regex Python Model.Safety Model.OuterTiers Model.OutputFilter
open Proof.InnerSafety

/-- The three tiers, where the classifier may return any object. -/
def tiers (it : Interpreter) (client : Model.PromptGuard.PromptGuardClient Message) : Tiers where
  checkRbac input := .ok (checkRbac input)
  checkStaticRules input := .ok (checkStaticRules it input)
  checkInjection input :=
    Model.PromptGuard.checkInjection client input.userQueryRaw input.conversationHistory

/-- The reason codes in the results of the tiers, of the layers and of the two composers. -/
inductive Emitted : String → Prop
  | rbac (input : OuterSafetyInput) : Emitted (checkRbac input).reasonCode
  | staticRules (it : Interpreter) (input : OuterSafetyInput) :
      Emitted (checkStaticRules it input).reasonCode
  | injectionGuard {turn : Type} (client : Model.PromptGuard.PromptGuardClient turn)
      (query : String) (history : List turn) {verdict : TierResult} :
      Model.PromptGuard.checkInjection client query history = .ok verdict →
      Emitted verdict.reasonCode
  | outer (it : Interpreter) (client : Model.PromptGuard.PromptGuardClient Message)
      (state : OuterView) {update : OuterUpdate} :
      outerSafetyCheck (tiers it client) state = .ok update → Emitted update.1.finalReasonCode
  | toolAuthorization (input : InnerSafetyInput) : Emitted (checkToolAuthorization input).reasonCode
  | parameterPresence (rt : Runtime) (input : InnerSafetyInput) :
      Emitted (checkParameterPresence rt input).reasonCode
  | parameterFormat (rt : Runtime) (input : InnerSafetyInput) {r : LayerResult} :
      checkParameterFormat rt input = .ok r → Emitted r.reasonCode
  | liveState (rt : Runtime) (readCourseState : ReadCourse) (input : InnerSafetyInput) :
      Emitted (checkLiveState rt readCourseState input).reasonCode
  | inner (rt : Runtime) (readCourseState : ReadCourse) (stamp : Stamp) (input : InnerSafetyInput)
      {result : InnerSafetyResult} :
      (innerSafetyCheck rt readCourseState stamp input).out = .ok result →
      Emitted result.finalReasonCode

def unlistedCode : String := "unknown_tool_for_format_check"

abbrev Listed (code : String) : Prop := code ∈ reasonCodeTerms

theorem listed {code : String} (found : reasonCodeTerms.elem code = true) : Listed code :=
  List.mem_of_elem_eq_true found

/-! ## The outer gate -/

theorem checkRbac_listed (input : OuterSafetyInput) : Listed (checkRbac input).reasonCode := by
  unfold checkRbac
  dsimp only
  split
  · exact listed rfl
  · split
    · exact listed rfl
    · split
      · exact listed rfl
      · exact listed rfl

theorem staticRules_listed : ∀ rule ∈ staticRules, Listed rule.reasonCode := by
  unfold staticRules denyRules flagRules
  simp only [List.cons_append, List.nil_append, List.forall_mem_cons]
  refine ⟨?_, ?_, ?_, ?_, ?_, nofun⟩
  all_goals exact listed rfl

theorem checkStaticRules_listed (it : Interpreter) (input : OuterSafetyInput) :
    Listed (checkStaticRules it input).reasonCode := by
  unfold checkStaticRules
  split
  · rename_i rule found
    exact staticRules_listed rule (List.mem_of_find?_eq_some found)
  · exact listed rfl

theorem resultFromObject_listed {result : Model.PromptGuard.ResultObject} {verdict : TierResult}
    (answered : Model.PromptGuard.resultFromObject result = .ok verdict) :
    Listed verdict.reasonCode := by
  unfold Model.PromptGuard.resultFromObject at answered
  obtain ⟨score, -, answered⟩ := bind_ok.mp answered
  obtain ⟨label, -, answered⟩ := bind_ok.mp answered
  split at answered
  · obtain ⟨high, -, answered⟩ := bind_ok.mp answered
    cases high with
    | true =>
        obtain ⟨detail, -, answered⟩ := bind_ok.mp answered
        cases answered
        exact listed rfl
    | false =>
        obtain ⟨uncertain, -, answered⟩ := bind_ok.mp answered
        cases uncertain with
        | true =>
            obtain ⟨detail, -, answered⟩ := bind_ok.mp answered
            cases answered
            exact listed rfl
        | false =>
            cases answered
            exact listed rfl
  · obtain ⟨value, -, answered⟩ := bind_ok.mp answered
    cases answered
    exact listed rfl

theorem checkInjection_listed {turn : Type} {client : Model.PromptGuard.PromptGuardClient turn}
    {query : String} {history : List turn} {verdict : TierResult}
    (answered : Model.PromptGuard.checkInjection client query history = .ok verdict) :
    Listed verdict.reasonCode := by
  unfold Model.PromptGuard.checkInjection at answered
  split at answered
  · split at answered
    · cases answered
      exact listed rfl
    · obtain ⟨shown, -, answered⟩ := bind_ok.mp answered
      cases answered
      exact listed rfl
  · obtain ⟨score, -, answered⟩ := bind_ok.mp answered
    obtain ⟨formed, -, answered⟩ := bind_ok.mp answered
    cases formed with
    | true => exact resultFromObject_listed answered
    | false =>
        obtain ⟨shown, -, answered⟩ := bind_ok.mp answered
        cases answered
        exact listed rfl

theorem outerSafetyCheck_listed {it : Interpreter}
    {client : Model.PromptGuard.PromptGuardClient Message} {state : OuterView}
    {update : OuterUpdate} (checked : outerSafetyCheck (tiers it client) state = .ok update) :
    Listed update.1.finalReasonCode := by
  unfold outerSafetyCheck at checked
  obtain ⟨input, -, checked⟩ := bind_ok.mp checked
  obtain ⟨r1, tier1, checked⟩ := bind_ok.mp checked
  obtain rfl := Except.ok.inj tier1
  split at checked
  · cases checked
    exact checkRbac_listed input
  obtain ⟨r2, tier2, checked⟩ := bind_ok.mp checked
  obtain rfl := Except.ok.inj tier2
  split at checked
  · cases checked
    exact checkStaticRules_listed it input
  obtain ⟨r3, tier3, checked⟩ := bind_ok.mp checked
  split at checked
  · cases checked
    exact checkInjection_listed tier3
  · cases checked
    exact listed rfl

/-! ## The inner gate -/

section
variable (rt : Runtime) (readCourseState : ReadCourse) (input : InnerSafetyInput)

theorem checkToolAuthorization_listed : Listed (checkToolAuthorization input).reasonCode := by
  unfold checkToolAuthorization
  dsimp only
  split
  · exact listed rfl
  · split
    · exact listed rfl
    · split
      · exact listed rfl
      · exact listed rfl

theorem checkParameterPresence_listed :
    Listed (checkParameterPresence rt input).reasonCode := by
  unfold checkParameterPresence
  split
  · exact listed rfl
  · dsimp only
    split
    · exact listed rfl
    · exact listed rfl

theorem checkParameterFormat_listed {r : LayerResult} (ok : checkParameterFormat rt input = .ok r) :
    Listed r.reasonCode ∨
      (formatValidators rt).lookup input.toolName = none ∧ r.reasonCode = unlistedCode := by
  unfold checkParameterFormat at ok
  split at ok
  · rename_i unknown
    cases ok
    exact Or.inr ⟨unknown, rfl⟩
  · obtain ⟨errors, -, ok⟩ := bind_ok.mp ok
    left
    split at ok
    · cases ok
      exact listed rfl
    · cases ok
      exact listed rfl

theorem formatValidators_known {required : List String}
    (known : requiredArgs.lookup input.toolName = some required) :
    (formatValidators rt).lookup input.toolName ≠ none := by
  unfold requiredArgs at known
  unfold formatValidators
  simp only [List.lookup_cons, List.lookup_nil] at known ⊢
  split at known
  · nofun
  split at known
  · nofun
  split at known
  · nofun
  · cases known

theorem checkEnrollmentModify_listed {verdict : Verdict}
    (ok : checkEnrollmentModify rt readCourseState input = .ok verdict) : Listed verdict.2.1 := by
  unfold checkEnrollmentModify at ok
  obtain ⟨courseId, -, ok⟩ := bind_ok.mp ok
  obtain ⟨studentId, -, ok⟩ := bind_ok.mp ok
  obtain ⟨action, -, ok⟩ := bind_ok.mp ok
  dsimp only at ok
  split at ok
  · cases ok
    exact listed rfl
  obtain ⟨state, -, ok⟩ := bind_ok.mp ok
  split at ok
  · split at ok
    · cases ok
      exact listed rfl
    · cases ok
      exact listed rfl
  · obtain ⟨enrolled, -, ok⟩ := bind_ok.mp ok
    cases enrolled with
    | true =>
        cases ok
        exact listed rfl
    | false =>
        cases ok
        exact listed rfl

theorem checkGradeUpdate_listed {verdict : Verdict}
    (ok : checkGradeUpdate rt readCourseState input = .ok verdict) : Listed verdict.2.1 := by
  unfold checkGradeUpdate at ok
  obtain ⟨courseId, -, ok⟩ := bind_ok.mp ok
  obtain ⟨studentId, -, ok⟩ := bind_ok.mp ok
  obtain ⟨state, -, ok⟩ := bind_ok.mp ok
  split at ok
  · cases ok
    exact listed rfl
  · obtain ⟨enrolled, -, ok⟩ := bind_ok.mp ok
    cases enrolled with
    | true =>
        cases ok
        exact listed rfl
    | false =>
        cases ok
        exact listed rfl

theorem checkAssignmentCreate_listed {verdict : Verdict}
    (ok : checkAssignmentCreate rt readCourseState input = .ok verdict) : Listed verdict.2.1 := by
  unfold checkAssignmentCreate at ok
  obtain ⟨courseId, -, ok⟩ := bind_ok.mp ok
  obtain ⟨state, -, ok⟩ := bind_ok.mp ok
  split at ok
  · cases ok
    exact listed rfl
  · cases ok
    exact listed rfl

theorem liveStateFailure_listed (e : PyExc) : Listed (liveStateFailure input e).2.1 := by
  unfold liveStateFailure
  split
  all_goals exact listed rfl

theorem checkLiveState_listed : Listed (checkLiveState rt readCourseState input).reasonCode := by
  unfold checkLiveState
  dsimp only
  split
  · rename_i verdict ok
    unfold dispatch at ok
    split at ok
    · exact checkEnrollmentModify_listed rt readCourseState input ok
    · split at ok
      · exact checkGradeUpdate_listed rt readCourseState input ok
      · split at ok
        · exact checkAssignmentCreate_listed rt readCourseState input ok
        · cases ok
  · exact liveStateFailure_listed input _

theorem innerSafetyCheck_listed {stamp : Stamp} {result : InnerSafetyResult}
    (ok : (innerSafetyCheck rt readCourseState stamp input).out = .ok result) :
    Listed result.finalReasonCode := by
  have run := gateRun rt readCourseState stamp input
  generalize innerSafetyCheck rt readCourseState stamp input = gate at run ok
  cases run with
  | raised => cases ok
  | allowed =>
      cases ok
      exact listed rfl
  | denied layerResults first =>
      obtain rfl := Except.ok.inj ok
      cases first with
      | authorization => exact checkToolAuthorization_listed input
      | presence => exact checkParameterPresence_listed rt input
      | liveState => exact checkLiveState_listed rt readCourseState input
      | format _ present found =>
          -- The layer before it knows the tool.
          obtain ⟨required, known, -⟩ := presence_required present
          rcases checkParameterFormat_listed rt input found with code | ⟨unknown, -⟩
          · exact code
          · exact absurd unknown (formatValidators_known rt input known)

end

theorem Emitted.listed_or {code : String} (emitted : Emitted code) :
    Listed code ∨ code = unlistedCode := by
  cases emitted with
  | rbac input => exact Or.inl (checkRbac_listed input)
  | staticRules it input => exact Or.inl (checkStaticRules_listed it input)
  | injectionGuard client query history answered => exact Or.inl (checkInjection_listed answered)
  | outer it client state checked => exact Or.inl (outerSafetyCheck_listed checked)
  | toolAuthorization input => exact Or.inl (checkToolAuthorization_listed input)
  | parameterPresence rt input => exact Or.inl (checkParameterPresence_listed rt input)
  | parameterFormat rt input ok => exact (checkParameterFormat_listed rt input ok).imp_right And.right
  | liveState rt readCourseState input =>
      exact Or.inl (checkLiveState_listed rt readCourseState input)
  | inner rt readCourseState stamp input ok =>
      exact Or.inl (innerSafetyCheck_listed rt readCourseState input ok)

/-! ## The filter -/

section
variable (rt : Runtime)

theorem reasonCodePattern_mem : reasonCodePattern ∈ OutputFilter.patterns := by
  apply List.mem_flatMap.mpr
  exact ⟨(.reasonCode, [reasonCodePattern]), .tail _ (.head _), .head _⟩

theorem reasonCodePattern_lang {code : String} (listed : Listed code) :
    reasonCodePattern.core.Lang rt.tables code.toList := by
  apply (Re.lang_anyOf rt.tables _ _).mpr
  exact ⟨Re.str code, List.mem_map_of_mem listed, (Re.lang_str rt.tables code _).mpr rfl⟩

theorem terms_end_in_words : reasonCodeTerms.all (fun code =>
    code.toList.head?.any rt.tables.isWord && code.toList.getLast?.any rt.tables.isWord) = true := by
  rfl

theorem listed_hidden {code : String} (listed : Listed code) (text : String) :
    ¬ Delimited rt.tables code.toList (filterResponse rt text).redactedText.toList := by
  have clean := OutputFilter.redactedText_clean rt text reasonCodePattern reasonCodePattern_mem
  have ends := List.all_eq_true.mp (terms_end_in_words rt) code listed
  obtain ⟨first, last⟩ := Bool.and_eq_true_iff.mp ends
  rw [← wholeWord_iff_delimited first last]
  exact (Pattern.clean_iff rfl).mp clean _ (reasonCodePattern_lang rt listed)

theorem terms_not_inside : ∀ code ∈ reasonCodeTerms, ¬ code.toList <:+: unlistedCode.toList := by
  decide +kernel

theorem reasonCodePattern_clean : reasonCodePattern.Clean rt.tables unlistedCode.toList := by
  intro pre w post split there
  obtain ⟨r, mem, lang⟩ := (Re.lang_anyOf rt.tables _ _).mp there.1
  obtain ⟨code, listed, rfl⟩ := List.mem_map.mp mem
  rw [Re.lang_str] at lang
  exact terms_not_inside code listed ⟨pre, post, by rw [split, lang]⟩

theorem clean_of_tails {p : Pattern} {s : List Char}
    (empty : (s.tails.all fun v => (p.core.run rt.tables v).isEmpty) = true) :
    p.Clean rt.tables s := by
  intro pre w post split there
  have tail : w ++ post ∈ s.tails :=
    (List.mem_tails _ _).mpr ⟨pre, by rw [split, List.append_assoc]⟩
  have none := List.isEmpty_iff.mp (List.all_eq_true.mp empty _ tail)
  have some := (p.core.mem_run_iff rt.tables _ w post).mpr ⟨rfl, there.1⟩
  rw [none] at some
  cases some

def otherPatterns : List Pattern :=
  markerPattern :: (thresholdPatterns ++ secretPatterns ++ archPatterns)

set_option maxRecDepth 100000 in
theorem otherPatterns_empty : otherPatterns.all (fun p =>
    unlistedCode.toList.tails.all fun v => (p.core.run rt.tables v).isEmpty) = true := by
  rfl

theorem unlistedCode_clean : ∀ p ∈ OutputFilter.patterns, p.Clean rt.tables unlistedCode.toList := by
  intro p mem
  by_cases same : p = reasonCodePattern
  · rw [same]
    exact reasonCodePattern_clean rt
  · have other : p ∈ otherPatterns := by
      unfold OutputFilter.patterns registry at mem
      unfold otherPatterns
      simp only [List.flatMap_cons, List.flatMap_nil, List.mem_append, List.mem_cons,
        List.not_mem_nil, or_false] at mem ⊢
      tauto
    exact clean_of_tails rt (List.all_eq_true.mp (otherPatterns_empty rt) p other)

end

/-- A reason code of the gates is hidden in every text, but for the one that the filter does not
list. -/
theorem reasonCode_hidden_iff (rt : Runtime) {code : String} (emitted : Emitted code) :
    (∀ text : String, Delimited rt.tables code.toList text.toList →
      ¬ Delimited rt.tables code.toList (filterResponse rt text).redactedText.toList) ↔
    code ≠ "unknown_tool_for_format_check" := by
  constructor
  · intro hidden same
    have shown := hidden code (Delimited.self code.toList)
    rw [same] at shown
    apply shown
    have kept := (OutputFilter.filterResponse_of_clean rt (unlistedCode_clean rt)).1
    rw [unlistedCode] at kept
    rw [kept]
    exact Delimited.self _
  · intro other text _
    rcases emitted.listed_or with listed | unlisted
    · exact listed_hidden rt listed text
    · exact absurd unlisted other

theorem unknown_role_hidden :
    Emitted "unknown_role" ∧
    ∀ text : String, Delimited Runtime.ascii.tables "unknown_role".toList text.toList →
      ¬ Delimited Runtime.ascii.tables "unknown_role".toList
        (filterResponse Runtime.ascii text).redactedText.toList := by
  have emitted : Emitted "unknown_role" :=
    .toolAuthorization ⟨⟨"u1", "s1", "guest", none⟩, "grade_update", []⟩
  exact ⟨emitted, (reasonCode_hidden_iff .ascii emitted).mpr (by decide)⟩

theorem format_check_code_shown :
    Emitted unlistedCode ∧
    Delimited Runtime.ascii.tables unlistedCode.toList unlistedCode.toList ∧
    Delimited Runtime.ascii.tables unlistedCode.toList
      (filterResponse Runtime.ascii unlistedCode).redactedText.toList := by
  have clean := unlistedCode_clean Runtime.ascii
  refine ⟨?_, Delimited.self _, ?_⟩
  · exact .parameterFormat .ascii ⟨⟨"u1", "s1", "instructor", none⟩, "course_delete", []⟩ rfl
  · rw [(OutputFilter.filterResponse_of_clean Runtime.ascii clean).1]
    exact Delimited.self _

end RealityAI.Proof.ReasonCodes
