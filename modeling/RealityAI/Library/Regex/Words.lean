import RealityAI.Library.Regex.Substitution

/-!
# Whole words

A pattern between `\b` finds the words of its language that stand in the text as whole words. It
finds all of them, when no match can hide another one.
-/

namespace RealityAI.Library.Regex

namespace Re

theorem lang_anyOf (t : CharTables) (rs : List Re) (w : List Char) :
    (anyOf rs).Lang t w ↔ ∃ r ∈ rs, r.Lang t w := by
  induction rs with
  | nil => simp [anyOf, Lang, CharClass.mem]
  | cons r rs ih =>
      cases rs with
      | nil => simp [anyOf]
      | cons r' rs => simp [anyOf, Lang] at ih ⊢; rw [ih]

theorem lang_str (t : CharTables) (s : String) (w : List Char) :
    (str s).Lang t w ↔ w = s.toList :=
  lang_lit t s.toList w

end Re

section
variable (t : CharTables)

def WholeWord (w s : List Char) : Prop :=
  ∃ pre post, s = pre ++ w ++ post ∧ boundary t (lastOr none pre) w.head? = true ∧
    boundary t w.getLast? post.head? = true

def Delimited (w s : List Char) : Prop :=
  ∃ pre post, s = pre ++ w ++ post ∧ (lastOr none pre).any t.isWord = false ∧
    post.head?.any t.isWord = false

variable {t}

theorem Delimited.self (w : List Char) : Delimited t w w :=
  ⟨[], [], by simp, rfl, rfl⟩

theorem wholeWord_iff_delimited {w : List Char} (starts : w.head?.any t.isWord = true)
    (ends : w.getLast?.any t.isWord = true) (s : List Char) :
    WholeWord t w s ↔ Delimited t w s := by
  unfold WholeWord Delimited boundary
  rw [starts, ends]
  simp

namespace Pattern
variable {p : Pattern} (bounded : p.bounded = true)
include bounded

theorem fits_iff {prev next : Option Char} {w : List Char} :
    p.fits t prev w next = true ↔
      boundary t prev w.head? = true ∧ boundary t w.getLast? next = true := by
  simp [fits, bounded]

theorem clean_iff {s : List Char} :
    p.Clean t s ↔ ∀ w, p.core.Lang t w → ¬ WholeWord t w s := by
  constructor
  · intro clean w lang ⟨pre, post, split, left, right⟩
    exact clean pre w post split ⟨lang, (fits_iff bounded).mpr ⟨left, right⟩⟩
  · intro absent pre w post split ⟨lang, fits⟩
    obtain ⟨left, right⟩ := (fits_iff bounded).mp fits
    exact absent w lang ⟨pre, post, split, left, right⟩

end Pattern

namespace Pattern

/-- No match is the beginning of another one, and none begins inside another one. -/
structure Exact (t : CharTables) (p : Pattern) : Prop where
  bounded : p.bounded = true
  alone : ∀ w v, p.core.Lang t w → p.core.Lang t (w ++ v) → v = []
  inside : ∀ u v w, p.core.Lang t (u ++ v) → u ≠ [] → v ≠ [] → p.core.Lang t w →
    w.head? = v.head? → boundary t u.getLast? v.head? = false

variable {p : Pattern}

theorem Cut.found {prev : Option Char} {s w : List Char} {ps : List Piece} (cut : Cut t p prev s ps)
    (mem : w ∈ ps.filterMap Piece.hit?) :
    ∃ pre post, s = pre ++ w ++ post ∧ p.MatchesAt t (lastOr prev pre) w post.head? := by
  induction cut with
  | nil => cases mem
  | @keep prev c s ps absent cut ih =>
      obtain ⟨pre, post, split, here⟩ := ih mem
      exact ⟨c :: pre, post, by rw [split]; rfl, here⟩
  | @hit prev h s ps here cut ih =>
      rcases List.mem_cons.mp mem with same | mem
      · subst same
        exact ⟨[], s, rfl, here⟩
      · obtain ⟨pre, post, split, later⟩ := ih mem
        refine ⟨h ++ pre, post, by simp [split], ?_⟩
        rwa [lastOr_append]

theorem Exact.same (exact : p.Exact t) {w w' post post' : List Char} (lang : p.core.Lang t w)
    (lang' : p.core.Lang t w') (split : w ++ post = w' ++ post') : w = w' ∧ post = post' := by
  rcases List.append_eq_append_iff.mp split with ⟨v, same, tail⟩ | ⟨v, same, tail⟩
  · subst same
    obtain rfl := exact.alone w v lang lang'
    exact ⟨by simp, tail⟩
  · subst same
    obtain rfl := exact.alone w' v lang' lang
    exact ⟨by simp, tail.symm⟩

theorem Exact.mem_cut (exact : p.Exact t) {prev : Option Char} {s : List Char} {ps : List Piece}
    (cut : Cut t p prev s ps) {pre w post : List Char} (split : s = pre ++ w ++ post)
    (there : p.MatchesAt t (lastOr prev pre) w post.head?) : w ∈ ps.filterMap Piece.hit? := by
  induction cut generalizing pre with
  | nil =>
      have empty := (List.append_eq_nil_iff.mp (List.append_eq_nil_iff.mp split.symm).1).2
      exact absurd empty there.ne_nil
  | @keep prev c s ps absent cut ih =>
      cases pre with
      | nil => exact absurd there (absent w post split)
      | cons d pre =>
          obtain ⟨rfl, tail⟩ := List.cons.inj split
          exact ih tail there
  | @hit prev h s ps here cut ih =>
      rw [List.append_assoc] at split
      rcases List.append_eq_append_iff.mp split with ⟨pre', same, tail⟩ | ⟨v, same, tail⟩
      · subst same
        rw [lastOr_append] at there
        exact List.mem_cons_of_mem _ (ih (by simpa using tail) there)
      · cases pre with
        | nil =>
            obtain ⟨rfl, -⟩ := exact.same here.1 there.1 split
            exact List.mem_cons_self
        | cons d pre =>
            cases v with
            | nil =>
                rw [List.append_nil] at same
                subst same
                exact List.mem_cons_of_mem _ (@ih [] (by simpa using tail.symm) there)
            | cons e v =>
                -- The word would begin inside the match.
                obtain ⟨x, w, rfl⟩ := List.exists_cons_of_ne_nil there.ne_nil
                obtain ⟨rfl, -⟩ := List.cons.inj tail
                have none := exact.inside (d :: pre) (x :: v) (x :: w) (same ▸ here.1) (by simp)
                  (by simp) there.1 rfl
                have left := ((fits_iff exact.bounded).mp there.2).1
                rw [lastOr_eq_getLast? (by simp)] at left
                exact absurd (none.symm.trans left) (by decide)

theorem Exact.mem_findAll_iff (exact : p.Exact t) {w s : List Char} :
    w ∈ p.findAll t s ↔ p.core.Lang t w ∧ WholeWord t w s := by
  have cut := scan_cut t p none s
  constructor
  · intro mem
    obtain ⟨pre, post, split, here⟩ := cut.found mem
    obtain ⟨left, right⟩ := (fits_iff exact.bounded).mp here.2
    exact ⟨here.1, pre, post, split, left, right⟩
  · intro ⟨lang, pre, post, split, left, right⟩
    exact exact.mem_cut cut split ⟨lang, (fits_iff exact.bounded).mpr ⟨left, right⟩⟩

end Pattern

end

end RealityAI.Library.Regex
