import RealityAI.Library.Regex.Segments
import RealityAI.Proof.OutputFilter

namespace RealityAI.Proof.OutputFilter
open Library.Regex Library.Regex.Pattern Python Model.OutputFilter

/-- The words that are replaced, each with the category of the pattern that found it. -/
def cuts (segs : List (Segment OutputFinding)) : List (OutputFinding × List Char) :=
  segs.filterMap Segment.cut?

section
variable (rt : Runtime)

structure Accounts (text : List Char) (acc : List OutputFilterFindingDetail × List Char)
    (segs : List (Segment OutputFinding)) : Prop where
  source : segs.flatMap Segment.source = text
  render : segs.flatMap (Segment.render token) = acc.2
  findings : acc.1.Perm ((cuts segs).map fun entry => findingDetail rt entry.1 entry.2)
  words : ∀ entry ∈ cuts segs, ∃ ps, (entry.1, ps) ∈ registry ∧
    ∃ p ∈ ps, p.core.Lang rt.tables entry.2

variable {rt : Runtime} {text : List Char} {acc : List OutputFilterFindingDetail × List Char}

theorem applyPattern_accounts {category : OutputFinding} {ps : List Pattern} {p : Pattern}
    (listed : (category, ps) ∈ registry) (mem : p ∈ ps) (before : ∃ segs, Accounts rt text acc segs) :
    ∃ segs, Accounts rt text (applyPattern rt category acc p) segs := by
  obtain ⟨segs, accounts⟩ := before
  have starts : token.head? = some '[' := rfl
  have apart := patterns_apart rt p (List.mem_flatMap.mpr ⟨_, listed, mem⟩)
  have scanned := scan_cut rt.tables p none acc.2
  rw [← accounts.render] at scanned
  obtain ⟨segs', refines⟩ := scanned.refines rt.tables starts apart category segs
  rw [accounts.render] at refines
  have made : (cuts segs').Perm
      (cuts segs ++ (p.findAll rt.tables acc.2).map (category, ·)) := refines.cuts
  refine ⟨segs', refines.source.trans accounts.source, refines.render, ?_, ?_⟩
  · refine List.Perm.trans ?_ (made.map _).symm
    rw [List.map_append, List.map_map]
    exact accounts.findings.append_right _
  · intro entry member
    rcases List.mem_append.mp (made.mem_iff.mp member) with old | new
    · exact accounts.words entry old
    · obtain ⟨w, found, rfl⟩ := List.mem_map.mp new
      exact ⟨ps, listed, p, mem, lang_of_findAll rt.tables found⟩

theorem category_accounts {category : OutputFinding} {ps : List Pattern}
    (listed : (category, ps) ∈ registry) (some : List Pattern) (among : some ⊆ ps)
    (before : ∃ segs, Accounts rt text acc segs) :
    ∃ segs, Accounts rt text (some.foldl (applyPattern rt category) acc) segs := by
  induction some generalizing acc with
  | nil => exact before
  | cons p some ih =>
      obtain ⟨mem, among⟩ := List.cons_subset.mp among
      exact ih among (applyPattern_accounts listed mem before)

theorem registry_accounts (entries : List (OutputFinding × List Pattern)) (among : entries ⊆ registry)
    (before : ∃ segs, Accounts rt text acc segs) :
    ∃ segs, Accounts rt text
      (entries.foldl (fun acc entry => entry.2.foldl (applyPattern rt entry.1) acc) acc) segs := by
  induction entries generalizing acc with
  | nil => exact before
  | cons entry entries ih =>
      obtain ⟨mem, among⟩ := List.cons_subset.mp among
      exact ih among (category_accounts mem entry.2 (List.Subset.refl _) before)

theorem start_accounts (text : List Char) : ∃ segs, Accounts rt text ([], text) segs := by
  refine ⟨Segment.plains text, Segment.plains_source text, Segment.plains_render token text, ?_, ?_⟩
  · rw [cuts, Segment.plains_cut?]
    exact List.Perm.refl _
  · rw [cuts, Segment.plains_cut?]
    nofun

end

def scanned (rt : Runtime) (text : String) : List OutputFilterFindingDetail × List Char :=
  registry.foldl (fun acc entry => entry.2.foldl (applyPattern rt entry.1) acc) ([], text.toList)

theorem filterResponse_eq (rt : Runtime) (text : String) :
    filterResponse rt text =
      { findings := (scanned rt text).1, redactedText := String.ofList (scanned rt text).2,
        redactionsCount := (scanned rt text).1.length, originalLength := text.toList.length,
        redactedLength := (scanned rt text).2.length } := by
  by_cases empty : text = ""
  · have clean : ∀ p ∈ registry.flatMap Prod.snd, p.Clean rt.tables [] := by
      intro p _ pre w post split here
      have nil := (List.append_eq_nil_iff.mp (List.append_eq_nil_iff.mp split.symm).1).2
      exact here.ne_nil rt.tables nil
    have nothing : scanned rt "" = ([], []) := registry_foldl_clean rt registry clean
    rw [empty, nothing]
    rfl
  · unfold filterResponse scanned
    rw [if_neg empty]

theorem scanned_accounts (rt : Runtime) (text : String) :
    ∃ segs, Accounts rt text.toList (scanned rt text) segs := by
  unfold scanned
  exact registry_accounts registry (List.Subset.refl _) (start_accounts text.toList)

/-- The filtered text is the text with disjoint words replaced, each of which a pattern matches; the
findings are those of the words, one for each, and the lengths add up. -/
theorem filterResponse_accounts (rt : Runtime) (text : String) :
    (∃ segs : List (Segment OutputFinding),
      segs.flatMap Segment.source = text.toList ∧
      segs.flatMap (Segment.render token) = (filterResponse rt text).redactedText.toList ∧
      (filterResponse rt text).findings.Perm
        ((cuts segs).map fun entry => findingDetail rt entry.1 entry.2) ∧
      (∀ entry ∈ cuts segs, entry.2 ≠ [] ∧ ∃ ps, (entry.1, ps) ∈ registry ∧
        ∃ p ∈ ps, p.core.Lang rt.tables entry.2) ∧
      (filterResponse rt text).redactionsCount = (cuts segs).length ∧
      (filterResponse rt text).redactedLength +
          ((cuts segs).map fun entry => entry.2.length).sum =
        (filterResponse rt text).originalLength + 10 * (filterResponse rt text).redactionsCount) ∧
    (filterResponse rt text).redactionsCount = (filterResponse rt text).findings.length ∧
    (filterResponse rt text).originalLength = text.toList.length ∧
    (filterResponse rt text).redactedLength =
      (filterResponse rt text).redactedText.toList.length ∧
    ((∀ p ∈ patterns, p.Clean rt.tables text.toList) →
      (filterResponse rt text).redactedText = text) := by
  refine ⟨?_, ?_, ?_, ?_, fun clean => (filterResponse_of_clean rt clean).1⟩
  · obtain ⟨segs, accounts⟩ := scanned_accounts rt text
    rw [filterResponse_eq]
    generalize scanned rt text = acc at accounts ⊢
    have count : acc.1.length = (cuts segs).length := by
      rw [accounts.findings.length_eq, List.length_map]
    have lengths := Segment.render_length token segs
    rw [accounts.render, accounts.source] at lengths
    refine ⟨segs, accounts.source, ?_, accounts.findings, ?_, count, ?_⟩
    · rw [String.toList_ofList]
      exact accounts.render
    · intro entry mem
      obtain ⟨ps, listed, p, member, lang⟩ := accounts.words entry mem
      refine ⟨?_, ps, listed, p, member, lang⟩
      intro empty
      have long := p.core.minLength_le rt.tables lang
      rw [empty] at long
      exact Nat.not_lt_zero _ (p.consumes.trans_le long)
    · dsimp only
      rw [count]
      exact lengths
  · rw [filterResponse_eq]
  · rw [filterResponse_eq]
  · rw [filterResponse_eq, String.toList_ofList]

end RealityAI.Proof.OutputFilter
