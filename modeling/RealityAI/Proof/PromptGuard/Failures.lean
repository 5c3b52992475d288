import Mathlib.Data.Rat.Cast.Order
import RealityAI.Model.PromptGuard
import RealityAI.Proof.OuterTiers

namespace RealityAI.Proof.PromptGuard
open Python Model.Safety Model.PromptGuard
open Model.OuterTiers (PromptGuardLabel denyThreshold flagThreshold guardResult resultFromScore)

abbrev Answer := Except Raised ResultObject

inductive Numeric : Score → Rat → Prop where
  | int (n : Int) : Numeric (.int n) n
  | float (x : Rat) : Numeric (.float (.finite x)) x

def Rates (answer : Answer) (label : PromptGuardLabel) (x : Rat) : Prop :=
  ∃ result score, answer = .ok result ∧ result.label = .ok (.member label) ∧
    result.score = .ok score ∧ Numeric score x ∧ 0 ≤ x ∧ x ≤ 1

def WellFormed (answer : Answer) : Prop := ∃ label x, Rates answer label x

def Decides (outcome : Except PyExc TierResult) (d : SafetyDecision) : Prop :=
  ∃ verdict, outcome = .ok verdict ∧ verdict.decision = d

/-- The tier returns a verdict, denies and allows only what it may, and flags the rest. -/
def OnlyReviews (answer : Answer) (outcome : Except PyExc TierResult) : Prop :=
  ∃ d, Decides outcome d ∧
    (d = .deny → ∃ x, Rates answer .injection x ∧ denyThreshold ≤ x) ∧
    (d = .allow → WellFormed answer) ∧
    (¬ WellFormed answer → d = .flagForReview)

/-- What the tier is prepared for: a failure that can be described; and of the objects with a score,
those whose score is refused and can be printed, the well-formed ones that have the detail they
need, and injections whose score compares as one in between. -/
def Handled : Answer → Prop
  | .error e => e.cls = .timeoutError ∨ e.str = .ok ()
  | .ok result => ∃ score, result.score = .ok score ∧
      (scoreWellFormed score = .ok false ∧ score.str = .ok () ∨
        (∃ label x, Rates (.ok result) label x ∧
          (label = .injection → flagThreshold ≤ x → result.detail = .ok ())) ∨
        scoreWellFormed score = .ok true ∧ result.label = .ok (.member .injection) ∧
          score.atLeast denyThreshold = .ok false ∧ score.atLeast flagThreshold = .ok true ∧
          result.detail = .ok ())

section
variable {turn : Type} {client : PromptGuardClient turn} {query : String} {history : List turn}
  {result : ResultObject} {score : Score} {label : PromptGuardLabel} {x : Rat} {d : SafetyDecision}

/-! ## Scores -/

theorem numeric_atLeast (numeric : Numeric score x) (t : Rat) :
    score.atLeast t = .ok (decide (t ≤ x)) := by
  cases numeric <;> rfl

theorem numeric_wellFormed (numeric : Numeric score x) (low : 0 ≤ x) (high : x ≤ 1) :
    scoreWellFormed score = .ok true := by
  cases numeric with
  | int n =>
      have small : n.natAbs < 2 ^ 1024 - 2 ^ 970 := by
        have lowest : 0 ≤ n := by exact_mod_cast low
        have highest : n ≤ 1 := by exact_mod_cast high
        have digit : n.natAbs ≤ 1 := by omega
        exact digit.trans_lt (by decide +kernel)
      simp only [scoreWellFormed, Score.toFloat, if_pos small]
      simp only [low, high, and_self, decide_true]
  | float x => simp [scoreWellFormed, Score.toFloat, low, high]

theorem rates_ok (scored : result.score = .ok score) :
    Rates (.ok result) label x ↔
      result.label = .ok (.member label) ∧ Numeric score x ∧ 0 ≤ x ∧ x ≤ 1 := by
  constructor
  · rintro ⟨_, _, returned, labelled, same, rest⟩
    cases returned
    cases scored.symm.trans same
    exact ⟨labelled, rest⟩
  · rintro ⟨labelled, rest⟩
    exact ⟨result, score, rfl, labelled, scored, rest⟩

/-! ## The verdict on an object -/

inductive Maps (result : ResultObject) (score : Score) : SafetyDecision → Prop where
  | denies (injection : result.label = .ok (.member .injection))
      (high : score.atLeast denyThreshold = .ok true) (detailed : result.detail = .ok ()) :
      Maps result score .deny
  | flags (injection : result.label = .ok (.member .injection))
      (below : score.atLeast denyThreshold = .ok false)
      (doubtful : score.atLeast flagThreshold = .ok true) (detailed : result.detail = .ok ()) :
      Maps result score .flagForReview
  | doubts (injection : result.label = .ok (.member .injection))
      (below : score.atLeast denyThreshold = .ok false)
      (low : score.atLeast flagThreshold = .ok false) : Maps result score .allow
  | passes (label : Label) (labelled : result.label = .ok label)
      (harmless : label ≠ .member .injection) (valued : label.value = .ok ()) :
      Maps result score .allow

theorem decides_ok {verdict : TierResult} : Decides (.ok verdict) d ↔ d = verdict.decision := by
  simp [Decides, eq_comm]

theorem decides_bind {α : Type} {read : Except PyExc α} {f : α → Except PyExc TierResult} :
    Decides (read >>= f) d ↔ ∃ a, read = .ok a ∧ Decides (f a) d := by
  cases read <;> simp [Decides, bind, Except.bind]

theorem decides_reads {read : Except PyExc Unit} {verdict : TierResult} :
    Decides (do read; return verdict) d ↔ read = .ok () ∧ d = verdict.decision := by
  rw [decides_bind]
  constructor
  · rintro ⟨_, answered, decided⟩
    exact ⟨answered, decides_ok.mp decided⟩
  · rintro ⟨answered, same⟩
    exact ⟨(), answered, decides_ok.mpr same⟩

theorem maps_of_decides (scored : result.score = .ok score)
    (decided : Decides (resultFromObject result) d) : Maps result score d := by
  simp only [resultFromObject, decides_bind, scored, Except.ok.injEq, exists_eq_left'] at decided
  obtain ⟨label, labelled, decided⟩ := decided
  by_cases injection : label = .member .injection
  · subst injection
    obtain ⟨denied, high, decided⟩ := decides_bind.mp decided
    cases denied with
    | true =>
        obtain ⟨detailed, rfl⟩ := decides_reads.mp decided
        exact .denies labelled high detailed
    | false =>
        obtain ⟨flagged, doubtful, decided⟩ := decides_bind.mp decided
        cases flagged with
        | true =>
            obtain ⟨detailed, rfl⟩ := decides_reads.mp decided
            exact .flags labelled high doubtful detailed
        | false =>
            cases decides_ok.mp decided
            exact .doubts labelled high doubtful
  · have decided : Decides (do
        label.value
        return guardResult .allow "prompt_guard_benign" "") d := by
      simpa only [injection] using decided
    obtain ⟨valued, rfl⟩ := decides_reads.mp decided
    exact .passes label labelled injection valued

theorem decides_of_maps (scored : result.score = .ok score) (maps : Maps result score d) :
    Decides (resultFromObject result) d := by
  simp only [resultFromObject, decides_bind, scored, Except.ok.injEq, exists_eq_left']
  cases maps with
  | denies injection high detailed =>
      refine ⟨_, injection, decides_bind.mpr ⟨true, high, ?_⟩⟩
      exact decides_reads.mpr ⟨detailed, rfl⟩
  | flags injection below doubtful detailed =>
      refine ⟨_, injection, decides_bind.mpr ⟨false, below, ?_⟩⟩
      refine decides_bind.mpr ⟨true, doubtful, ?_⟩
      exact decides_reads.mpr ⟨detailed, rfl⟩
  | doubts injection below low =>
      refine ⟨_, injection, decides_bind.mpr ⟨false, below, ?_⟩⟩
      exact decides_bind.mpr ⟨false, low, decides_ok.mpr rfl⟩
  | passes label labelled harmless valued =>
      refine ⟨label, labelled, ?_⟩
      simp only
      exact decides_reads.mpr ⟨valued, rfl⟩

theorem checkInjection_ok_iff (answered : client.classify query history = .ok result) :
    Decides (checkInjection client query history) d ↔ ∃ score, result.score = .ok score ∧
      (scoreWellFormed score = .ok false ∧ score.str = .ok () ∧ d = .flagForReview ∨
        scoreWellFormed score = .ok true ∧ Maps result score d) := by
  simp only [checkInjection, answered, decides_bind]
  apply exists_congr
  intro score
  apply and_congr_right
  intro scored
  constructor
  · rintro ⟨fits, formed, decided⟩
    cases fits with
    | true => exact .inr ⟨formed, maps_of_decides scored decided⟩
    | false =>
        obtain ⟨printed, flagged⟩ := decides_reads.mp decided
        exact .inl ⟨formed, printed, flagged⟩
  · rintro (⟨formed, printed, flagged⟩ | ⟨formed, maps⟩)
    · exact ⟨false, formed, decides_reads.mpr ⟨printed, flagged⟩⟩
    · exact ⟨true, formed, decides_of_maps scored maps⟩

theorem checkInjection_error_iff {e : Raised}
    (answered : client.classify query history = .error e) :
    Decides (checkInjection client query history) d ↔
      (e.cls = .timeoutError ∨ e.str = .ok ()) ∧ d = .flagForReview := by
  simp only [checkInjection, answered]
  by_cases late : e.cls = .timeoutError
  · rw [if_pos late, decides_ok]
    exact (and_iff_right (.inl late)).symm
  · rw [if_neg late, decides_reads, or_iff_right late]
    rfl

theorem maps_rated (labelled : result.label = .ok (.member label)) (numeric : Numeric score x)
    (detailed : label = .injection → flagThreshold ≤ x → result.detail = .ok ()) :
    Maps result score (resultFromScore label x).decision := by
  have compares := numeric_atLeast numeric
  unfold resultFromScore
  cases label with
  | benign =>
      rw [if_neg nofun, if_neg nofun]
      exact .passes _ labelled nofun rfl
  | injection =>
      by_cases high : denyThreshold ≤ x
      · have doubtful : flagThreshold ≤ x := le_trans (by decide +kernel) high
        rw [if_pos ⟨rfl, high⟩]
        refine .denies labelled ?_ (detailed rfl doubtful)
        rw [compares, decide_eq_true high]
      · have below : score.atLeast denyThreshold = .ok false := by
          rw [compares, decide_eq_false high]
        rw [if_neg (mt And.right high)]
        by_cases doubtful : flagThreshold ≤ x
        · rw [if_pos ⟨rfl, doubtful⟩]
          refine .flags labelled below ?_ (detailed rfl doubtful)
          rw [compares, decide_eq_true doubtful]
        · rw [if_neg (mt And.right doubtful)]
          refine .doubts labelled below ?_
          rw [compares, decide_eq_false doubtful]

theorem checkInjection_rated (answered : client.classify query history = .ok result)
    (rated : Rates (.ok result) label x)
    (detailed : label = .injection → flagThreshold ≤ x → result.detail = .ok ()) :
    Decides (checkInjection client query history) (resultFromScore label x).decision := by
  obtain ⟨_, score, returned, labelled, scored, numeric, low, high⟩ := rated
  cases returned
  refine (checkInjection_ok_iff answered).mpr ⟨score, scored, .inr ⟨?_, ?_⟩⟩
  · exact numeric_wellFormed numeric low high
  · exact maps_rated labelled numeric detailed

theorem onlyReviews_flagged {answer : Answer} {outcome : Except PyExc TierResult}
    (flagged : Decides outcome .flagForReview) : OnlyReviews answer outcome :=
  ⟨.flagForReview, flagged, nofun, nofun, fun _ => rfl⟩

theorem handled_of_maps (scored : result.score = .ok score)
    (formed : scoreWellFormed score = .ok true) (maps : Maps result score d)
    (denies : d = .deny → ∃ x, Rates (.ok result) .injection x ∧ denyThreshold ≤ x)
    (allows : d = .allow → WellFormed (.ok result)) : Handled (.ok result) := by
  refine ⟨score, scored, ?_⟩
  cases maps with
  | denies injection high detailed =>
      obtain ⟨x, rated, -⟩ := denies rfl
      exact .inr (.inl ⟨.injection, x, rated, fun _ _ => detailed⟩)
  | flags injection below doubtful detailed =>
      exact .inr (.inr ⟨formed, injection, below, doubtful, detailed⟩)
  | doubts injection below low =>
      obtain ⟨label, x, rated⟩ := allows rfl
      refine .inr (.inl ⟨label, x, rated, fun _ least => ?_⟩)
      obtain ⟨-, numeric, -⟩ := (rates_ok scored).mp rated
      rw [numeric_atLeast numeric, decide_eq_true least] at low
      cases low
  | passes other labelled harmless valued =>
      obtain ⟨label, x, rated⟩ := allows rfl
      refine .inr (.inl ⟨label, x, rated, fun same _ => ?_⟩)
      obtain ⟨member, -⟩ := (rates_ok scored).mp rated
      cases labelled.symm.trans member
      exact (harmless (congrArg _ same)).elim

theorem onlyReviews_rated (answered : client.classify query history = .ok result)
    (rated : Rates (.ok result) label x)
    (detailed : label = .injection → flagThreshold ≤ x → result.detail = .ok ()) :
    OnlyReviews (.ok result) (checkInjection client query history) := by
  refine ⟨_, checkInjection_rated answered rated detailed, ?_, ?_, ?_⟩
  · intro deny
    obtain ⟨rfl, least⟩ := OuterTiers.resultFromScore_deny.mp deny
    exact ⟨x, rated, least⟩
  · intro _
    exact ⟨label, x, rated⟩
  · intro malformed
    exact (malformed ⟨label, x, rated⟩).elim

end

/-- Whatever the classifier does, the tier only reviews it if and only if it is prepared for it. -/
theorem checkInjection_only_reviews_iff {turn : Type} (client : PromptGuardClient turn)
    (query : String) (history : List turn) :
    OnlyReviews (client.classify query history) (checkInjection client query history) ↔
      Handled (client.classify query history) := by
  cases answered : client.classify query history with
  | error e =>
      constructor
      · rintro ⟨d, decided, -⟩
        exact ((checkInjection_error_iff answered).mp decided).1
      · intro described
        exact onlyReviews_flagged ((checkInjection_error_iff answered).mpr ⟨described, rfl⟩)
  | ok result =>
      constructor
      · rintro ⟨d, decided, denies, allows, -⟩
        obtain ⟨score, scored, verdict⟩ := (checkInjection_ok_iff answered).mp decided
        obtain ⟨formed, printed, -⟩ | ⟨formed, maps⟩ := verdict
        · exact ⟨score, scored, .inl ⟨formed, printed⟩⟩
        · exact handled_of_maps scored formed maps denies allows
      · rintro ⟨score, scored, ⟨formed, printed⟩ | ⟨label, x, rated, detailed⟩ | doubtful⟩
        · apply onlyReviews_flagged
          apply (checkInjection_ok_iff answered).mpr
          exact ⟨score, scored, .inl ⟨formed, printed, rfl⟩⟩
        · exact onlyReviews_rated answered rated detailed
        · obtain ⟨formed, injection, below, between, detailed⟩ := doubtful
          apply onlyReviews_flagged
          apply (checkInjection_ok_iff answered).mpr
          exact ⟨score, scored, .inr ⟨formed, .flags injection below between detailed⟩⟩

/-! No object at all, an injection rated with a text, and a text as the rating of a harmless one. -/

def answers (result : ResultObject) : PromptGuardClient Turn where
  classify _ _ := .ok result

def noneResult : ResultObject where
  score := .error ⟨.attributeError, "'NoneType' object has no attribute 'score'"⟩
  label := .error ⟨.attributeError, "'NoneType' object has no attribute 'label'"⟩
  detail := .error ⟨.attributeError, "'NoneType' object has no attribute 'detail'"⟩

def textScore (x : Rat) : Score :=
  .object (.ok (.finite x))
    (fun _ => .error ⟨.typeError, "'>=' not supported between instances of 'str' and 'float'"⟩)
    (.ok ())

def textRated (label : PromptGuardLabel) (x : Rat) : ResultObject where
  score := .ok (textScore x)
  label := .ok (.member label)
  detail := .ok ()

/-- A text that reads as a number in [0, 1] passes the check, and then no order is defined on it. -/
theorem textRated_allowed {label : PromptGuardLabel} {x : Rat} (low : 0 ≤ x) (high : x ≤ 1)
    {d : SafetyDecision}
    (decided : Decides (checkInjection (answers (textRated label x)) "When?" []) d) :
    d = .allow := by
  obtain ⟨score, scored, verdict⟩ := (checkInjection_ok_iff rfl).mp decided
  cases scored
  have formed : scoreWellFormed (textScore x) = .ok true := by
    simp [scoreWellFormed, textScore, Score.toFloat, low, high]
  obtain ⟨malformed, -⟩ | ⟨-, maps⟩ := verdict
  · cases formed.symm.trans malformed
  · cases maps with
    | denies injection compared => cases compared
    | flags injection compared => cases compared
    | doubts injection compared => cases compared
    | passes => rfl

theorem textRated_malformed {label : PromptGuardLabel} {x : Rat} :
    ¬ WellFormed ((answers (textRated label x)).classify "When?" []) := by
  rintro ⟨_, _, rated⟩
  obtain ⟨-, numeric, -⟩ := (rates_ok rfl).mp rated
  cases numeric

theorem textRated_escapes {label : PromptGuardLabel} {x : Rat} (low : 0 ≤ x) (high : x ≤ 1) :
    ¬ OnlyReviews ((answers (textRated label x)).classify "When?" [])
      (checkInjection (answers (textRated label x)) "When?" []) := by
  rintro ⟨d, decided, -, allows, -⟩
  exact textRated_malformed (allows (textRated_allowed low high decided))

theorem broken_classifier_escapes :
    ¬ OnlyReviews ((answers noneResult).classify "When?" [])
        (checkInjection (answers noneResult) "When?" []) ∧
      ¬ OnlyReviews ((answers (textRated .injection (95 / 100))).classify "When?" [])
        (checkInjection (answers (textRated .injection (95 / 100))) "When?" []) ∧
      ¬ OnlyReviews ((answers (textRated .benign (2 / 10))).classify "When?" [])
        (checkInjection (answers (textRated .benign (2 / 10))) "When?" []) := by
  refine ⟨?_, textRated_escapes (by decide +kernel) (by decide +kernel),
    textRated_escapes (by decide +kernel) (by decide +kernel)⟩
  rintro ⟨d, decided, -⟩
  obtain ⟨score, scored, -⟩ := (checkInjection_ok_iff rfl).mp decided
  cases scored

/-! ## The classifiers of the typed model -/

def typedResult (result : Model.OuterTiers.PromptGuardResult) : ResultObject where
  score := .ok (.float (.ofPyFloat result.score))
  label := .ok (.member result.label)
  detail := .ok ()

def typedClient (guard : Model.OuterTiers.PromptGuard) : PromptGuardClient Message where
  classify query history :=
    match guard.classify query history with
    | .ok result => .ok (typedResult result)
    | .error e => .error ⟨e.cls, .ok ()⟩

theorem ofPyFloat_some {y : PyFloat} {x : Rat} (value : y.value? = some x) :
    FloatValue.ofPyFloat y = .finite x := by
  cases y with
  | nan => cases value
  | inf neg => cases value
  | finite neg digits point => simp only [FloatValue.ofPyFloat, value]

theorem scoreWellFormed_ofPyFloat (y : PyFloat) :
    scoreWellFormed (.float (.ofPyFloat y)) = .ok (Model.OuterTiers.wellFormedScore y).isSome := by
  cases value : y.value? with
  | none =>
      cases y with
      | nan => rfl
      | inf neg => rfl
      | finite neg digits point => cases value
  | some x =>
      rw [ofPyFloat_some value, Model.OuterTiers.wellFormedScore, value]
      by_cases inside : 0 ≤ x ∧ x ≤ 1 <;>
        simp [scoreWellFormed, Score.toFloat, Option.filter, inside]

theorem resultFromObject_typed {result : Model.OuterTiers.PromptGuardResult} {x : Rat}
    (value : result.score.value? = some x) :
    resultFromObject (typedResult result) =
      .ok (Model.OuterTiers.resultFromScore result.label x) := by
  unfold resultFromObject typedResult Model.OuterTiers.resultFromScore
  rw [ofPyFloat_some value]
  cases result.label with
  | benign => rfl
  | injection =>
      by_cases high : denyThreshold ≤ x
      · simp [high, bind, Except.bind, pure, Except.pure, Score.atLeast, FloatValue.atLeast]
      · by_cases doubtful : flagThreshold ≤ x
        · simp [high, doubtful, bind, Except.bind, pure, Except.pure, Score.atLeast,
            FloatValue.atLeast]
        · simp [high, doubtful, bind, Except.bind, pure, Except.pure, Score.atLeast,
            FloatValue.atLeast]

theorem checkInjection_eq {turn : Type} {client : PromptGuardClient turn} {query : String}
    {history : List turn} {result : ResultObject} {score : Score} {fits : Bool}
    (answered : client.classify query history = .ok result) (scored : result.score = .ok score)
    (formed : scoreWellFormed score = .ok fits) :
    checkInjection client query history =
      if fits then resultFromObject result
      else do
        score.str
        return guardResult .flagForReview "prompt_guard_malformed_result"
          "Injection classifier returned out-of-range score." := by
  simp only [checkInjection, answered, scored, formed, bind, Except.bind]

theorem checkInjection_typed (guard : Model.OuterTiers.PromptGuard) (input : OuterSafetyInput) :
    checkInjection (typedClient guard) input.userQueryRaw input.conversationHistory =
      .ok (Model.OuterTiers.checkInjection guard input) := by
  cases answered : guard.classify input.userQueryRaw input.conversationHistory with
  | error e =>
      by_cases late : e.cls = .timeoutError
      · simp only [checkInjection, Model.OuterTiers.checkInjection, typedClient, answered,
          if_pos late]
      · simp only [checkInjection, Model.OuterTiers.checkInjection, typedClient, answered,
          if_neg late]
        rfl
  | ok result =>
      have typed : (typedClient guard).classify input.userQueryRaw input.conversationHistory =
          .ok (typedResult result) := by
        simp only [typedClient, answered]
      rw [checkInjection_eq typed rfl (scoreWellFormed_ofPyFloat result.score)]
      simp only [Model.OuterTiers.checkInjection, answered]
      cases scored : Model.OuterTiers.wellFormedScore result.score with
      | none => rfl
      | some x => exact resultFromObject_typed (Option.filter_eq_some_iff.mp scored).1

end RealityAI.Proof.PromptGuard
