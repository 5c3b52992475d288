import RealityAI.Model.OutputFilter
import RealityAI.Proof.Marker

namespace RealityAI.Proof.OutputFilter
open Library.Regex Library.Regex.Pattern Python Model.OutputFilter

def patterns : List Pattern := registry.flatMap Prod.snd

def token : List Char := redactionToken.toList

section
variable (rt : Runtime)

theorem applyPattern_foldl (category : OutputFinding) (ps : List Pattern)
    (acc : List OutputFilterFindingDetail × List Char) :
    (ps.foldl (applyPattern rt category) acc).2 = subAll rt.tables ps token acc.2 := by
  induction ps generalizing acc with
  | nil => rfl
  | cons p ps ih => exact ih _

theorem registry_foldl (entries : List (OutputFinding × List Pattern))
    (acc : List OutputFilterFindingDetail × List Char) :
    (entries.foldl (fun acc entry => entry.2.foldl (applyPattern rt entry.1) acc) acc).2 =
      subAll rt.tables (entries.flatMap Prod.snd) token acc.2 := by
  induction entries generalizing acc with
  | nil => rfl
  | cons entry entries ih =>
      rw [List.foldl_cons, ih, applyPattern_foldl, List.flatMap_cons, subAll, subAll, subAll,
        List.foldl_append]

theorem applyPattern_clean {category : OutputFinding} {p : Pattern} {found} {s : List Char}
    (clean : p.Clean rt.tables s) : applyPattern rt category (found, s) p = (found, s) := by
  have absent := findAll_eq_nil rt.tables clean
  simp [applyPattern, absent, sub_eq_self rt.tables absent]

theorem registry_foldl_clean (entries : List (OutputFinding × List Pattern)) {found}
    {s : List Char} (clean : ∀ p ∈ entries.flatMap Prod.snd, p.Clean rt.tables s) :
    entries.foldl (fun acc entry => entry.2.foldl (applyPattern rt entry.1) acc) (found, s) =
      (found, s) := by
  have one (category : OutputFinding) (ps : List Pattern) (h : ∀ p ∈ ps, p.Clean rt.tables s) :
      ps.foldl (applyPattern rt category) (found, s) = (found, s) := by
    induction ps with
    | nil => rfl
    | cons p ps ih =>
        rw [List.foldl_cons, applyPattern_clean rt (h p (by simp))]
        exact ih fun q hq => h q (by simp [hq])
  induction entries with
  | nil => rfl
  | cons entry entries ih =>
      simp only [List.flatMap_cons, List.forall_mem_append] at clean
      rw [List.foldl_cons, one entry.1 entry.2 clean.1, ih clean.2]

theorem subAll_nil (ps : List Pattern) : subAll rt.tables ps token [] = [] := by
  induction ps with
  | nil => rfl
  | cons p ps ih => exact ih

theorem redactedText_toList (text : String) :
    (filterResponse rt text).redactedText.toList = subAll rt.tables patterns token text.toList := by
  by_cases empty : text = ""
  · subst empty
    exact (subAll_nil rt patterns).symm
  · simp only [filterResponse, if_neg empty, String.toList_ofList]
    exact registry_foldl rt registry _

theorem filterResponse_of_clean {text : String}
    (clean : ∀ p ∈ patterns, p.Clean rt.tables text.toList) :
    (filterResponse rt text).redactedText = text ∧ (filterResponse rt text).findings = [] ∧
      (filterResponse rt text).redactionsCount = 0 := by
  by_cases empty : text = ""
  · subst empty
    exact ⟨rfl, rfl, rfl⟩
  · simp only [filterResponse, if_neg empty, registry_foldl_clean rt registry clean,
      String.ofList_toList, List.length_nil, and_self]

def Recorded (before after : List OutputFilterFindingDetail × List Char) : Prop :=
  before.1.length ≤ after.1.length ∧ (after.1.length = before.1.length → after.2 = before.2)

theorem Recorded.trans {a b c : List OutputFilterFindingDetail × List Char}
    (first : Recorded a b) (second : Recorded b c) : Recorded a c := by
  obtain ⟨grows, silent⟩ := first
  obtain ⟨grows', silent'⟩ := second
  refine ⟨grows.trans grows', fun same => ?_⟩
  rw [silent' (by omega), silent (by omega)]

theorem applyPattern_recorded (category : OutputFinding)
    (acc : List OutputFilterFindingDetail × List Char) (p : Pattern) :
    Recorded acc (applyPattern rt category acc p) := by
  refine ⟨by simp [applyPattern], fun same => ?_⟩
  have absent : p.findAll rt.tables acc.2 = [] := by
    simpa [applyPattern] using same
  exact sub_eq_self rt.tables absent

theorem registry_recorded (entries : List (OutputFinding × List Pattern))
    (acc : List OutputFilterFindingDetail × List Char) :
    Recorded acc
      (entries.foldl (fun acc entry => entry.2.foldl (applyPattern rt entry.1) acc) acc) := by
  refine List.foldlRecOn entries _ ⟨le_rfl, fun _ => rfl⟩ fun mid recorded entry _ => ?_
  apply recorded.trans
  exact List.foldlRecOn entry.2 _ ⟨le_rfl, fun _ => rfl⟩ fun mid recorded p _ =>
    recorded.trans (applyPattern_recorded rt entry.1 mid p)

theorem redactedText_of_none {text : String} (none : (filterResponse rt text).redactionsCount = 0) :
    (filterResponse rt text).redactedText = text := by
  by_cases empty : text = ""
  · rw [empty]
    rfl
  · simp only [filterResponse, if_neg empty] at none ⊢
    rw [(registry_recorded rt registry ([], text.toList)).2 none, String.ofList_toList]

theorem marker_bounded : markerPattern.bounded = false := rfl

theorem others_bounded : ∀ p ∈ patterns.tail, p.bounded = true := by
  decide +kernel

theorem patterns_delimited :
    patterns.Pairwise fun q p => p.bounded = true ∨ q.bounded = false := by
  have split : patterns = markerPattern :: patterns.tail := rfl
  rw [split, List.pairwise_cons]
  refine ⟨fun p _ => Or.inr marker_bounded, ?_⟩
  exact List.pairwise_of_forall_mem_list fun _ _ p hp => Or.inl (others_bounded p hp)

set_option maxRecDepth 100000 in
theorem others_clear :
    patterns.tail.all (fun p => clearOf rt.tables p.core token) = true := by
  rfl

theorem patterns_apart : ∀ p ∈ patterns, p.ApartFrom rt.tables token := by
  have split : patterns = markerPattern :: patterns.tail := rfl
  rw [split, List.forall_mem_cons]
  constructor
  · exact Marker.apartFrom rt.tables (c := 'R') (by decide) (by decide) (by decide)
  · intro p hp
    exact apartFrom_of_clearOf rt.tables (List.all_eq_true.mp (others_clear rt) p hp)

theorem redactedText_clean (text : String) :
    ∀ p ∈ patterns, p.Clean rt.tables (filterResponse rt text).redactedText.toList := by
  rw [redactedText_toList]
  have starts : token.head? = some '[' := rfl
  exact clean_subAll rt.tables starts patterns (patterns_apart rt) patterns_delimited _

/-- No pattern matches anywhere in a filtered text, and filtering it again finds nothing. -/
theorem filterResponse_complete (text : String) :
    (∀ entry ∈ registry, ∀ p ∈ entry.2,
      p.Clean rt.tables (filterResponse rt text).redactedText.toList) ∧
    (let again := filterResponse rt (filterResponse rt text).redactedText
     again.redactedText = (filterResponse rt text).redactedText ∧ again.findings = [] ∧
       again.redactionsCount = 0) :=
  ⟨fun entry mem p hp => redactedText_clean rt text p (List.mem_flatMap.mpr ⟨entry, mem, hp⟩),
    filterResponse_of_clean rt (redactedText_clean rt text)⟩

end

end RealityAI.Proof.OutputFilter
