import RealityAI.Model.OuterTiers

namespace RealityAI.Proof.OuterTiers
open Library.Regex Python Model.Safety Model.OuterTiers

def strictness : SafetyDecision → Nat
  | .allow => 0
  | .flagForReview => 1
  | .deny => 2

instance : LE SafetyDecision := ⟨fun d d' => strictness d ≤ strictness d'⟩

instance (d d' : SafetyDecision) : Decidable (d ≤ d') :=
  inferInstanceAs (Decidable (strictness d ≤ strictness d'))

theorem le_deny (d : SafetyDecision) : d ≤ .deny := by
  cases d <;> decide

theorem le_flag_iff (d : SafetyDecision) : d ≤ .flagForReview ↔ d ≠ .deny := by
  cases d <;> decide

/-- No tier after the first is stricter about the input than the decision. -/
def NoneStricter (tiers : Tiers) (input : OuterSafetyInput) (d : SafetyDecision) : Prop :=
  ∀ check ∈ [tiers.checkStaticRules, tiers.checkInjection], ∀ r,
    check input = .ok r → r.decision ≤ d

section
variable {it : Interpreter} {guard : PromptGuard} {state : OuterView} {input : OuterSafetyInput}

def Listed (input : OuterSafetyInput) : Prop :=
  ∃ config, outerRoles.lookup input.session.userRole = some config ∧ input.intent ∈ config.allowed

theorem outerRoles_denied {role : String} {config : Model.OuterTiers.RoleConfig}
    (known : outerRoles.lookup role = some config) : config.denied = [] := by
  simp only [outerRoles, List.lookup_cons, List.lookup_nil] at known
  split at known
  · cases known
    rfl
  · split at known
    · cases known
      rfl
    · cases known

theorem checkRbac_listed (listed : Listed input) : (checkRbac input).decision = .allow := by
  obtain ⟨config, known, allowed⟩ := listed
  simp only [checkRbac, known, if_pos allowed, rbacResult]

theorem checkRbac_unlisted (known : (outerRoles.lookup input.session.userRole).isSome)
    (unlisted : ¬ Listed input) : (checkRbac input).decision = .flagForReview := by
  obtain ⟨config, known⟩ := Option.isSome_iff_exists.mp known
  have unlisted : input.intent ∉ config.allowed := fun allowed => unlisted ⟨config, known, allowed⟩
  have undenied : input.intent ∉ config.denied := by
    rw [outerRoles_denied known]
    exact List.not_mem_nil
  simp only [checkRbac, known, if_neg unlisted, if_neg undenied, rbacResult]

def RuleMatches (it : Interpreter) (input : OuterSafetyInput) (d : SafetyDecision) : Prop :=
  ∃ rule ∈ staticRules, rule.decision = d ∧ rule.matches it input.intent input.userQueryRaw

theorem denyRules_decision {rule : StaticRule} (mem : rule ∈ denyRules) :
    rule.decision = .deny := by
  simp only [denyRules, List.mem_cons, List.not_mem_nil, or_false] at mem
  obtain same | same | same := mem <;> rw [same]

theorem flagRules_decision {rule : StaticRule} (mem : rule ∈ flagRules) :
    rule.decision = .flagForReview := by
  simp only [flagRules, List.mem_cons, List.not_mem_nil, or_false] at mem
  obtain same | same := mem <;> rw [same]

variable (it input) in
/-- The DENY rules are declared before the FLAG rules, so the first match is the strictest one. -/
theorem checkStaticRules_deny :
    (checkStaticRules it input).decision = .deny ↔ RuleMatches it input .deny := by
  unfold checkStaticRules RuleMatches staticRules
  rw [List.find?_append]
  constructor
  · intro denied
    cases found : denyRules.find? (·.matches it input.intent input.userQueryRaw) with
    | some rule =>
        have mem := List.mem_of_find?_eq_some found
        have hit := List.find?_some found
        exact ⟨rule, List.mem_append_left _ mem, denyRules_decision mem, hit⟩
    | none =>
        rw [found, Option.none_or] at denied
        split at denied
        · rename_i rule found
          rw [flagRules_decision (List.mem_of_find?_eq_some found)] at denied
          cases denied
        · cases denied
  · rintro ⟨rule, mem, decision, hit⟩
    have mem : rule ∈ denyRules := by
      obtain mem | mem := List.mem_append.mp mem
      · exact mem
      · rw [flagRules_decision mem] at decision
        cases decision
    obtain ⟨first, found⟩ := Option.isSome_iff_exists.mp
      (List.find?_isSome.mpr ⟨rule, mem, hit⟩ :
        (denyRules.find? (·.matches it input.intent input.userQueryRaw)).isSome)
    rw [found, Option.some_or]
    exact denyRules_decision (List.mem_of_find?_eq_some found)

variable (it input) in
theorem checkStaticRules_flag :
    (checkStaticRules it input).decision = .flagForReview ↔
      RuleMatches it input .flagForReview ∧ ¬ RuleMatches it input .deny := by
  rw [← checkStaticRules_deny]
  constructor
  · intro flagged
    refine ⟨?_, fun denied => ?_⟩
    · unfold checkStaticRules at flagged
      split at flagged
      · rename_i rule found
        have hit := List.find?_some found
        exact ⟨rule, List.mem_of_find?_eq_some found, flagged, hit⟩
      · cases flagged
    · rw [flagged] at denied
      cases denied
  · rintro ⟨⟨rule, mem, -, hit⟩, undenied⟩
    obtain ⟨first, found⟩ := Option.isSome_iff_exists.mp
      (List.find?_isSome.mpr ⟨rule, mem, hit⟩ :
        (staticRules.find? (·.matches it input.intent input.userQueryRaw)).isSome)
    unfold checkStaticRules at undenied ⊢
    rw [found] at undenied ⊢
    obtain mem | mem := List.mem_append.mp (List.mem_of_find?_eq_some found)
    · exact (undenied (denyRules_decision mem)).elim
    · exact flagRules_decision mem

def HighConfidence (guard : PromptGuard) (input : OuterSafetyInput) : Prop :=
  ∃ result score, guard.classify input.userQueryRaw input.conversationHistory = .ok result ∧
    result.label = .injection ∧ wellFormedScore result.score = some score ∧ denyThreshold ≤ score

theorem resultFromScore_deny {label : PromptGuardLabel} {score : Rat} :
    (resultFromScore label score).decision = .deny ↔
      label = .injection ∧ denyThreshold ≤ score := by
  unfold resultFromScore guardResult
  split
  · simp_all
  · rename_i doubtful
    split <;> simp [doubtful]

variable (guard input) in
theorem checkInjection_deny :
    (checkInjection guard input).decision = .deny ↔ HighConfidence guard input := by
  unfold checkInjection HighConfidence
  cases guard.classify input.userQueryRaw input.conversationHistory with
  | error e => by_cases late : e.cls = .timeoutError <;> simp [late, guardResult]
  | ok result =>
      cases scored : wellFormedScore result.score with
      | none => simp [scored, guardResult]
      | some score => simp [scored, resultFromScore_deny]

variable (it guard) in
theorem outerSafetyCheck_final (built : buildInput state = .ok input) :
    ∃ update, outerSafetyCheck (outerTiers it guard) state = .ok update ∧
      update.1.finalDecision =
        if (checkRbac input).decision ≠ .allow then (checkRbac input).decision
        else if (checkStaticRules it input).decision ≠ .allow then
          (checkStaticRules it input).decision
        else (checkInjection guard input).decision := by
  unfold outerSafetyCheck
  simp only [built, outerTiers, bind, Except.bind]
  split
  · exact ⟨_, rfl, rfl⟩
  · split
    · exact ⟨_, rfl, rfl⟩
    · split
      · exact ⟨_, rfl, rfl⟩
      · rename_i allowed
        exact ⟨_, rfl, (not_not.mp allowed).symm⟩

theorem noneStricter_iff {d : SafetyDecision} :
    NoneStricter (outerTiers it guard) input d ↔
      (checkStaticRules it input).decision ≤ d ∧ (checkInjection guard input).decision ≤ d := by
  simp [NoneStricter, outerTiers]

end

/-- The final decision is as strict as that of every later tier in exactly these cases: the intent
is listed for the role or nothing denies, and no flag of the static rules stands before a denial of
the injection guard. -/
theorem later_denials_kept_iff (it : Interpreter) (guard : PromptGuard) (state : OuterView)
    (input : OuterSafetyInput) (built : buildInput state = .ok input)
    (known : (outerRoles.lookup input.session.userRole).isSome) :
    (∃ update, outerSafetyCheck (outerTiers it guard) state = .ok update ∧
        NoneStricter (outerTiers it guard) input update.1.finalDecision) ↔
      (Listed input ∨ ¬ RuleMatches it input .deny ∧ ¬ HighConfidence guard input) ∧
      (RuleMatches it input .flagForReview → HighConfidence guard input →
        RuleMatches it input .deny) := by
  obtain ⟨update, checked, final⟩ := outerSafetyCheck_final it guard built
  have only : (∃ update, outerSafetyCheck (outerTiers it guard) state = .ok update ∧
      NoneStricter (outerTiers it guard) input update.1.finalDecision) ↔
      (checkStaticRules it input).decision ≤ update.1.finalDecision ∧
        (checkInjection guard input).decision ≤ update.1.finalDecision := by
    simp only [checked, Except.ok.injEq, exists_eq_left', noneStricter_iff]
  rw [only, final]
  have denies := checkStaticRules_deny it input
  have flags := checkStaticRules_flag it input
  have detects := checkInjection_deny guard input
  by_cases listed : Listed input
  · rw [if_neg (not_not.mpr (checkRbac_listed listed))]
    cases static : (checkStaticRules it input).decision with
    | allow =>
        have unflagged : ¬ (RuleMatches it input .flagForReview ∧ ¬ RuleMatches it input .deny) := by
          rw [← flags, static]
          exact nofun
        rw [if_neg (not_not.mpr rfl)]
        refine iff_of_true ⟨Nat.zero_le _, Nat.le_refl _⟩ ⟨.inl listed, fun flag _ => ?_⟩
        by_contra undenied
        exact unflagged ⟨flag, undenied⟩
    | deny =>
        rw [if_pos nofun]
        exact iff_of_true ⟨le_deny _, le_deny _⟩ ⟨.inl listed, fun _ _ => denies.mp static⟩
    | flagForReview =>
        obtain ⟨flag, undenied⟩ := flags.mp static
        rw [if_pos nofun, le_flag_iff, le_flag_iff, Ne, Ne, detects]
        constructor
        · rintro ⟨-, doubtful⟩
          exact ⟨.inl listed, fun _ high => (doubtful high).elim⟩
        · rintro ⟨-, kept⟩
          exact ⟨nofun, fun high => undenied (kept flag high)⟩
  · rw [checkRbac_unlisted known listed, if_pos nofun, le_flag_iff, le_flag_iff, Ne, Ne, denies,
      detects]
    constructor
    · rintro ⟨undenied, doubtful⟩
      exact ⟨.inr ⟨undenied, doubtful⟩, fun _ high => (doubtful high).elim⟩
    · rintro ⟨kept, -⟩
      exact kept.resolve_left listed

/-! A request for passwords under an intent that the matrix does not list, and an enrollment phrased
as a query that the classifier takes for an injection. -/

def studentAsks (intent query : String) : OuterView where
  messages := [⟨.str query⟩]
  userId := some (.str "S001")
  sessionId := some (.str "T1")
  userRole := some (.str "student")
  intent := some (.str intent)

def studentInput (intent query : String) : OuterSafetyInput where
  session := { userId := "S001", sessionId := "T1", userRole := "student" }
  intent := intent
  userQueryRaw := query
  conversationHistory := []

def scores (label : PromptGuardLabel) (digits : List (Fin 10)) : PromptGuard where
  classify _ _ := .ok ⟨label, .finite false digits 0⟩

def decided (guard : PromptGuard) (intent query : String) : Option SafetyDecision :=
  (outerSafetyCheck (outerTiers .ascii guard) (studentAsks intent query)).toOption.map
    (·.1.finalDecision)

theorem review_masks_denial :
    (decided (scores .benign [9, 9]) "chitchat" "What is her password?" = some .flagForReview ∧
      (checkStaticRules .ascii (studentInput "chitchat" "What is her password?")).decision = .deny) ∧
    (decided (scores .injection [9, 5]) "query" "Please forget it and enroll me" =
        some .flagForReview ∧
      (checkInjection (scores .injection [9, 5])
        (studentInput "query" "Please forget it and enroll me")).decision = .deny) := by
  decide +kernel

theorem listed_intent_denied :
    ∃ update, outerSafetyCheck (outerTiers .ascii (scores .benign [9, 9]))
        (studentAsks "query" "What is her password?") = .ok update ∧
      NoneStricter (outerTiers .ascii (scores .benign [9, 9]))
        (studentInput "query" "What is her password?") update.1.finalDecision :=
  (later_denials_kept_iff .ascii (scores .benign [9, 9])
    (studentAsks "query" "What is her password?") (studentInput "query" "What is her password?")
    rfl rfl).mpr
    ⟨.inl ⟨_, rfl, by decide⟩, fun _ high => by
      obtain ⟨result, score, answered, injection, -⟩ := high
      cases answered
      cases injection⟩

end RealityAI.Proof.OuterTiers
