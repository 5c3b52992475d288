import RealityAI.Library.Regex.Words
import RealityAI.Model.CorefGate

namespace RealityAI.Proof.CorefGate
open Library.Regex Library.Regex.Re Python Model.Safety Model.CorefGate

section
variable (t : CharTables) {core : Re} (consumes : 0 < core.minLength) (text : List Char)

theorem search_unanchored (p : GatePattern) (free : p.anchored = false) :
    p.search t text = true ↔ ¬ p.pattern.Clean t text := by
  rw [GatePattern.search, free, ← Pattern.findAll_eq_nil_iff]
  simp

theorem word_search :
    (word core consumes).search t text = true ↔ ∃ w, core.Lang t w ∧ WholeWord t w text := by
  rw [search_unanchored t text _ rfl, Pattern.clean_iff rfl]
  simp [word]

theorem anywhere_search :
    (anywhere core consumes).search t text = true ↔ ∃ w, core.Lang t w ∧ w <:+: text := by
  rw [search_unanchored t text _ rfl, Pattern.Clean]
  constructor
  · intro found
    simp only [not_forall, not_not] at found
    obtain ⟨pre, w, post, split, lang, -⟩ := found
    exact ⟨w, lang, pre, post, split.symm⟩
  · rintro ⟨w, lang, pre, post, split⟩ clean
    exact clean pre w post split.symm ⟨lang, rfl⟩

theorem atStart_search :
    (atStart core consumes).search t text = true ↔ ∃ w, core.Lang t w ∧ w <+: text := by
  show ((atStart core consumes).pattern.first t none text).isSome = true ↔ _
  cases found : (atStart core consumes).pattern.first t none text with
  | none =>
      simp only [Option.isSome_none, Bool.false_eq_true, false_iff]
      rintro ⟨w, lang, post, split⟩
      exact Pattern.first_none t found w post split.symm ⟨lang, rfl⟩
  | some w =>
      obtain ⟨post, split, lang, -⟩ := Pattern.first_some t found
      exact iff_of_true rfl ⟨w, lang, post, split.symm⟩

end

def pronouns : List String :=
  ["it", "its", "that", "those", "these", "this", "they", "them", "their"]

def chinesePronouns : List String := ["它", "那个", "那门", "这个", "这门", "那些", "这些"]

def definiteNouns : List String := ["course", "class", "requirement", "professor", "instructor"]

def chineseReferences : List String := ["那门课", "那个老师", "那个requirement", "那个 requirement"]

def followUps : List String := ["再查", "再看", "那", "然后", "接着"]

def followUpVerbs : List String := ["check", "look", "find", "show"]

def followUpObjects : List String := ["again", "more", "those", "that"]

section
variable (t : CharTables) (text : List Char)

def Pronoun : Prop :=
  (∃ s ∈ pronouns, Delimited t s.toList text) ∨ ∃ s ∈ chinesePronouns, s.toList <:+: text

def DefiniteReference : Prop :=
  (∃ noun ∈ definiteNouns, Delimited t ("the ".toList ++ noun.toList) text) ∨
    ∃ s ∈ chineseReferences, s.toList <:+: text

def Again : Prop :=
  ∃ verb ∈ followUpVerbs, ∃ gap : List Char, gap ≠ [] ∧ (∀ c ∈ gap, t.isSpace c = true) ∧
    ∃ object ∈ followUpObjects, verb.toList ++ gap ++ object.toList <+: text

def FollowUp : Prop :=
  (∃ s ∈ followUps, s.toList <+: text) ∨ Again t text ∨
  ∃ lead ∈ ["what about", "how about"], ∃ c, t.isSpace c = true ∧ lead.toList ++ [c] <+: text

end

section
variable {t : CharTables} {text : List Char}

def edged (w : List Char) : Bool :=
  w.head?.any (fun c => c.toNat < 128 && c.isAlphanum) &&
    w.getLast?.any fun c => c.toNat < 128 && c.isAlphanum

theorem wholeWord_edged {w : List Char} (edges : edged w = true) :
    WholeWord t w text ↔ Delimited t w text := by
  have inside (o : Option Char) (here : o.any (fun c => c.toNat < 128 && c.isAlphanum) = true) :
      o.any t.isWord = true := by
    cases o with
    | none => cases here
    | some c =>
        obtain ⟨ascii, letter⟩ : c.toNat < 128 ∧ c.isAlphanum = true := by simpa using here
        simp [CharTables.isWord, ascii, letter]
  obtain ⟨starts, ends⟩ := Bool.and_eq_true_iff.mp edges
  exact wholeWord_iff_delimited (inside _ starts) (inside _ ends) text

theorem word_str {s : String} (consumes : 0 < (str s).minLength) (edges : edged s.toList = true) :
    (word (str s) consumes).search t text = true ↔ Delimited t s.toList text := by
  rw [word_search, ← wholeWord_edged edges]
  simp [lang_str]

theorem anywhere_str {s : String} (consumes : 0 < (str s).minLength) :
    (anywhere (str s) consumes).search t text = true ↔ s.toList <:+: text := by
  rw [anywhere_search]
  simp [lang_str]

theorem pronounPatterns_search :
    (pronounPatterns.any fun p => p.search t text) = true ↔ Pronoun t text := by
  simp only [pronounPatterns, List.any_cons, List.any_nil, Bool.or_eq_true, Bool.false_eq_true,
    or_false, anywhere_str]
  simp (disch := decide) only [word_str]
  simp [Pronoun, pronouns, chinesePronouns, or_assoc]

theorem lang_seq (a b : Re) (w : List Char) :
    (Re.seq a b).Lang t w ↔ ∃ u v, a.Lang t u ∧ b.Lang t v ∧ w = u ++ v := Iff.rfl

theorem lang_texts (texts : List String) (w : List Char) :
    (anyOf (texts.map str)).Lang t w ↔ ∃ s ∈ texts, w = s.toList := by
  simp [lang_anyOf, lang_str]

theorem definite_search (consumes) :
    (word (seqs [str "the ", anyOf (definiteNouns.map str)]) consumes).search t text = true ↔
      ∃ noun ∈ definiteNouns, Delimited t ("the ".toList ++ noun.toList) text := by
  have edges : ∀ noun ∈ definiteNouns, edged ("the ".toList ++ noun.toList) = true := by decide
  simp only [word_search, seqs, lang_seq, lang_texts, lang_str]
  constructor
  · rintro ⟨_, ⟨_, _, rfl, ⟨noun, mem, rfl⟩, rfl⟩, whole⟩
    exact ⟨noun, mem, (wholeWord_edged (edges noun mem)).mp whole⟩
  · rintro ⟨noun, mem, whole⟩
    exact ⟨_, ⟨_, _, rfl, ⟨noun, mem, rfl⟩, rfl⟩, (wholeWord_edged (edges noun mem)).mpr whole⟩

theorem requirement_search (consumes) :
    (anywhere (seqs [str "那个", opt (one ' '), str "requirement"]) consumes).search t text = true ↔
      "那个requirement".toList <:+: text ∨ "那个 requirement".toList <:+: text := by
  simp only [anywhere_search, seqs, Lang, opt, lang_one, lang_str]
  constructor
  · rintro ⟨_, ⟨_, _, rfl, ⟨_, _, rfl | rfl, rfl, rfl⟩, rfl⟩, inside⟩
    · exact .inr inside
    · exact .inl inside
  · rintro (inside | inside)
    · exact ⟨_, ⟨_, _, rfl, ⟨_, _, .inr rfl, rfl, rfl⟩, rfl⟩, inside⟩
    · exact ⟨_, ⟨_, _, rfl, ⟨_, _, .inl rfl, rfl, rfl⟩, rfl⟩, inside⟩

theorem definiteReferencePatterns_search :
    (definiteReferencePatterns.any fun p => p.search t text) = true ↔ DefiniteReference t text := by
  simp only [definiteReferencePatterns, List.any_cons, List.any_nil, Bool.or_eq_true,
    Bool.false_eq_true, or_false, anywhere_str, requirement_search]
  refine (or_congr_left (definite_search _)).trans ?_
  simp [DefiniteReference, chineseReferences]

theorem lang_gap (w : List Char) :
    (rep [.space] 1 none).Lang t w ↔ w ≠ [] ∧ ∀ c ∈ w, t.isSpace c = true := by
  simp [Lang, CharClass.mem, ClassItem.mem, Nat.succ_le_iff, List.length_pos_iff, and_comm]

theorem followUp_search (consumes) :
    (atStart (anyOf (followUps.map str)) consumes).search t text = true ↔
      ∃ s ∈ followUps, s.toList <+: text := by
  simp only [atStart_search, lang_texts]
  constructor
  · rintro ⟨_, ⟨s, mem, rfl⟩, start⟩
    exact ⟨s, mem, start⟩
  · rintro ⟨s, mem, start⟩
    exact ⟨_, ⟨s, mem, rfl⟩, start⟩

theorem again_search (consumes) :
    (atStart (seqs [anyOf (followUpVerbs.map str), .rep [.space] 1 none,
      anyOf (followUpObjects.map str)]) consumes).search t text = true ↔ Again t text := by
  simp only [atStart_search, seqs, lang_seq, lang_texts, lang_gap]
  constructor
  · rintro ⟨_, ⟨_, _, ⟨verb, listed, rfl⟩, ⟨gap, _, ⟨some, blank⟩, ⟨object, known, rfl⟩, rfl⟩, rfl⟩,
      start⟩
    exact ⟨verb, listed, gap, some, blank, object, known, by simpa using start⟩
  · rintro ⟨verb, listed, gap, some, blank, object, known, start⟩
    exact ⟨_, ⟨_, _, ⟨verb, listed, rfl⟩, ⟨gap, _, ⟨some, blank⟩, ⟨object, known, rfl⟩, rfl⟩, rfl⟩,
      by simpa using start⟩

theorem about_search (consumes) :
    (atStart (seqs [anyOf (["what about", "how about"].map str), .rep [.space] 1 none])
      consumes).search t text = true ↔
      ∃ lead ∈ ["what about", "how about"], ∃ c, t.isSpace c = true ∧ lead.toList ++ [c] <+: text := by
  simp only [atStart_search, seqs, lang_seq, lang_texts, lang_gap]
  constructor
  · rintro ⟨_, ⟨_, gap, ⟨lead, listed, rfl⟩, ⟨some, blank⟩, rfl⟩, start⟩
    obtain ⟨c, gap, rfl⟩ := List.exists_cons_of_ne_nil some
    exact ⟨lead, listed, c, blank c List.mem_cons_self,
      (by simp : lead.toList ++ [c] <+: lead.toList ++ c :: gap).trans start⟩
  · rintro ⟨lead, listed, c, blank, start⟩
    exact ⟨_, ⟨_, [c], ⟨lead, listed, rfl⟩, ⟨by simp, by simpa using blank⟩, rfl⟩, start⟩

theorem ellipsisPatterns_search :
    (ellipsisPatterns.any fun p => p.search t text) = true ↔ FollowUp t text := by
  simp only [ellipsisPatterns, List.any_cons, List.any_nil, Bool.or_eq_true, Bool.false_eq_true,
    or_false]
  exact or_congr (followUp_search _) (or_congr (again_search _) (about_search _))

theorem patterns_search :
    ((pronounPatterns ++ definiteReferencePatterns ++ ellipsisPatterns).any fun p =>
      p.search t text) = true ↔ Pronoun t text ∨ DefiniteReference t text ∨ FollowUp t text := by
  simp only [List.any_append, Bool.or_eq_true, pronounPatterns_search,
    definiteReferencePatterns_search, ellipsisPatterns_search, or_assoc]

end

/-- The gate fires in every conversation that has begun, when the query refers to something said
before or is short and not the second message. -/
theorem needsCoref_iff (b : Builtins) (userQuery : String) (sessionHistory : List Message) :
    needsCoref b userQuery sessionHistory = true ↔
      sessionHistory ≠ [] ∧
        ((Pronoun b.tables (b.lower userQuery).toList ∨
          DefiniteReference b.tables (b.lower userQuery).toList ∨
          FollowUp b.tables (b.lower userQuery).toList) ∨
        2 ≤ sessionHistory.length ∧ (b.split userQuery).length ≤ 3) := by
  unfold needsCoref
  cases sessionHistory with
  | nil => simp
  | cons m history =>
      rw [← patterns_search]
      simp only [List.isEmpty_cons, Bool.false_eq_true, if_false, ne_eq, reduceCtorEq,
        not_false_eq_true, true_and]
      split
      · rename_i refers
        exact iff_of_true rfl (.inl refers)
      · rename_i plain
        simp only [decide_eq_true_eq]
        exact (or_iff_right plain).symm

end RealityAI.Proof.CorefGate
