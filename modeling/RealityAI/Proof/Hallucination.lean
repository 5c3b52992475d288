import RealityAI.Library.Regex.Words
import RealityAI.Model.Degradation
import RealityAI.Proof.ParameterFormat

namespace RealityAI.Proof.Hallucination
open Library.Regex Python Model.Safety Model.Degradation Proof.ParameterFormat

abbrev Capital (c : Char) : Prop := 'A' ≤ c ∧ c ≤ 'Z'

section
variable {t : CharTables}

theorem capital_toNat {c : Char} (capital : Capital c) : 65 ≤ c.toNat ∧ c.toNat ≤ 90 := capital

theorem isWord_capital {c : Char} (capital : Capital c) : t.isWord c = true := by
  obtain ⟨low, high⟩ := capital_toNat capital
  have upper : c.isUpper = true := by
    unfold Char.isUpper
    simp only [decide_eq_true_eq]
    exact capital
  have alphanum : c.isAlphanum = (c.isUpper || c.isLower || c.isDigit) := rfl
  unfold CharTables.isWord
  rw [if_pos (by omega), alphanum, upper]
  rfl

theorem isDigit_capital {c : Char} (capital : Capital c) : t.isDigit c = false := by
  obtain ⟨low, high⟩ := capital_toNat capital
  unfold CharTables.isDigit
  rw [if_pos (by omega)]
  unfold Char.isDigit
  have above : ¬ c.val ≤ 57 := by
    intro below
    have : c.toNat ≤ 57 := below
    omega
  simp [above]

def Id (t : CharTables) (least most : Nat) (w : List Char) : Prop :=
  ∃ capitals digits, Block Capital 2 4 capitals ∧ Block (fun c => t.isDigit c) least most digits ∧
    w = capitals ++ digits

theorem lang_courseLike (w : List Char) : courseLikePattern.core.Lang t w ↔ Id t 3 3 w := by
  have capitals := lang_rep t (mem_range t 'A' 'Z') 2 4
  have digits := lang_rep t (mem_digit t) 3 3
  simp only [courseLikePattern, Re.Lang.eq_3, capitals, digits]
  rfl

theorem courseId_of_short {w : List Char} (short : Id t 3 3 w) : courseIdPattern.Lang t w := by
  obtain ⟨capitals, digits, front, back, split⟩ := short
  rw [lang_courseId]
  exact ⟨capitals, digits, front, ⟨back.each, back.least, back.most.trans (by omega)⟩, split⟩

theorem capitals_eq {capitals digits capitals' digits' rest rest' : List Char} {m m' : Nat}
    (front : Block Capital 2 4 capitals) (back : Block (fun c => t.isDigit c) 3 m digits)
    (front' : Block Capital 2 4 capitals') (back' : Block (fun c => t.isDigit c) 3 m' digits')
    (same : capitals ++ (digits ++ rest) = capitals' ++ (digits' ++ rest')) :
    capitals = capitals' ∧ digits ++ rest = digits' ++ rest' := by
  have taken (xs : List Char) {us vs : List Char} {k : Nat} (front : Block Capital 2 4 us)
      (back : Block (fun c => t.isDigit c) 3 k vs) :
      (us ++ (vs ++ xs)).takeWhile (fun c => decide (Capital c)) = us := by
    obtain ⟨d, vs, rfl⟩ : ∃ d vs', vs = d :: vs' := by
      apply List.exists_cons_of_ne_nil
      rintro rfl
      exact absurd back.least (by simp)
    have digit : t.isDigit d = true := back.each d List.mem_cons_self
    have other : ¬ Capital d := by
      intro capital
      exact absurd ((isDigit_capital capital).symm.trans digit) (by decide)
    rw [List.takeWhile_append_of_pos fun c mem => decide_eq_true (front.each c mem),
      List.cons_append, List.takeWhile_cons_of_neg (by simpa using other), List.append_nil]
  have equal : capitals = capitals' := by
    rw [← taken rest front back, same, taken rest' front' back']
  subst equal
  exact ⟨rfl, List.append_cancel_left same⟩

theorem courseLike_exact : courseLikePattern.Exact t where
  bounded := rfl
  alone := by
    intro w v lang longer
    obtain ⟨capitals, digits, front, back, rfl⟩ := (lang_courseLike w).mp lang
    obtain ⟨capitals', digits', front', back', split⟩ := (lang_courseLike _).mp longer
    have aligned : capitals ++ (digits ++ v) = capitals' ++ (digits' ++ []) := by simpa using split
    obtain ⟨-, tails⟩ := capitals_eq front back front' back' aligned
    have lengths := congrArg List.length tails
    have := back.least
    have := back'.most
    simp only [List.length_append, List.append_nil] at lengths
    exact List.length_eq_zero_iff.mp (by omega)
  inside := by
    intro u v w lang nonempty nonempty' starts same
    obtain ⟨capitals, digits, front, back, split⟩ := (lang_courseLike _).mp lang
    obtain ⟨capitals', digits', front', back', rfl⟩ := (lang_courseLike _).mp starts
    obtain ⟨c, capitals', rfl⟩ : ∃ c cs, capitals' = c :: cs := by
      apply List.exists_cons_of_ne_nil
      rintro rfl
      exact absurd front'.least (by simp)
    have capital : Capital c := front'.each c List.mem_cons_self
    obtain ⟨d, v, rfl⟩ := List.exists_cons_of_ne_nil nonempty'
    obtain rfl : c = d := by simpa using same
    -- The capital stands among the capitals, and so does what is before it.
    have among : ∀ x ∈ u, x ∈ capitals := by
      rcases List.append_eq_append_iff.mp split with ⟨y, whole, -⟩ | ⟨y, whole, tail⟩
      · intro x mem
        rw [whole]
        exact List.mem_append_left _ mem
      · cases y with
        | nil => simp [whole]
        | cons e y =>
            have digit : c ∈ digits := by
              rw [tail]
              simp
            exact absurd ((isDigit_capital capital).symm.trans (back.each c digit)) (by decide)
    have last := front.each _ (among _ (List.getLast_mem nonempty))
    rw [List.getLast?_eq_getLast_of_ne_nil nonempty]
    simp only [boundary, Option.any_some, List.head?_cons, isWord_capital last,
      isWord_capital capital]
    rfl

end

/-- A word of the language stands in the text as a whole word, and is no id of the context. -/
def Invented (t : CharTables) (lang : List Char → Prop) (contextIds : List String) (text : String) :
    Prop :=
  ∃ w, lang w ∧ WholeWord t w text.toList ∧ String.ofList w ∉ contextIds

section
variable (b : Builtins) (response : String) {contextIds : List String}

theorem detectHallucination_iff (nonempty : contextIds ≠ []) :
    detectHallucination b response contextIds = true ↔
      Invented b.tables (Id b.tables 3 3) contextIds (b.upper response) := by
  have exact : courseLikePattern.Exact b.tables := courseLike_exact
  unfold detectHallucination Invented
  rw [if_neg nonempty]
  simp only [decide_eq_true_eq, List.length_pos_iff_exists_mem, List.mem_filter, List.mem_dedup,
    List.mem_map, exact.mem_findAll_iff, lang_courseLike]
  constructor
  · rintro ⟨_, ⟨w, ⟨lang, whole⟩, rfl⟩, unknown⟩
    exact ⟨w, lang, whole, unknown⟩
  · intro ⟨w, lang, whole, unknown⟩
    exact ⟨_, ⟨w, ⟨lang, whole⟩, rfl⟩, unknown⟩

/-- The check speaks the language of the parameter check on a text if and only if that holds no
invented id, or its upper-cased form an invented id of three digits. -/
theorem detects_invented_iff (nonempty : contextIds ≠ []) :
    ((Invented b.tables (courseIdPattern.Lang b.tables) contextIds response →
        detectHallucination b response contextIds = true) ∧
      (detectHallucination b response contextIds = true →
        Invented b.tables (courseIdPattern.Lang b.tables) contextIds (b.upper response))) ↔
    (¬ Invented b.tables (courseIdPattern.Lang b.tables) contextIds response ∨
      Invented b.tables (Id b.tables 3 3) contextIds (b.upper response)) := by
  rw [detectHallucination_iff b response nonempty]
  constructor
  · intro ⟨complete, _⟩
    exact imp_iff_not_or.mp complete
  · intro holds
    refine ⟨fun invented => holds.resolve_left (not_not.mpr invented), ?_⟩
    intro ⟨w, short, whole, unknown⟩
    exact ⟨w, courseId_of_short short, whole, unknown⟩

end

theorem three_digits_detected :
    ((Invented Builtins.ascii.tables (courseIdPattern.Lang Builtins.ascii.tables) ["CS101"]
          "Take MATH999" →
        detectHallucination .ascii "Take MATH999" ["CS101"] = true) ∧
      (detectHallucination .ascii "Take MATH999" ["CS101"] = true →
        Invented Builtins.ascii.tables (courseIdPattern.Lang Builtins.ascii.tables) ["CS101"]
          (Builtins.ascii.upper "Take MATH999"))) := by
  have nonempty : ["CS101"] ≠ [] := List.cons_ne_nil _ _
  apply (detects_invented_iff .ascii "Take MATH999" nonempty).mpr
  apply Or.inr
  apply (detectHallucination_iff .ascii "Take MATH999" nonempty).mp
  decide +kernel

theorem four_digits_overlooked :
    Invented Builtins.ascii.tables (courseIdPattern.Lang Builtins.ascii.tables) ["CS101"]
        "Take COMS4705 next" ∧
      detectHallucination .ascii "Take COMS4705 next" ["CS101"] = false := by
  constructor
  · refine ⟨"COMS4705".toList, ?_, ⟨"Take ".toList, " next".toList, ?_⟩, ?_⟩
    · apply And.right
      apply (Re.mem_run_iff _ courseIdPattern "COMS4705".toList "COMS4705".toList []).mp
      decide +kernel
    · decide +kernel
    · decide +kernel
  · decide +kernel

end RealityAI.Proof.Hallucination
