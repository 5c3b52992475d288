import RealityAI.Library.Regex.Language
import Mathlib.Data.List.Infix

/-!
# Scanning and substitution

`scan` walks over a text from left to right and cuts out the leftmost matches, the first choice of
the engine at each position; `sub` puts a token in the place of each. A pattern is a core language,
delimited by word boundaries or not.
-/

namespace RealityAI.Library.Regex

structure Pattern where
  core : Re
  bounded : Bool
  consumes : 0 < core.minLength

def Pattern.literal (w : List Char) (nonempty : w ≠ []) : Pattern where
  core := .lit w
  bounded := false
  consumes := by
    rw [Re.minLength_lit]
    exact List.length_pos_iff.mpr nonempty

inductive Piece where
  | plain (c : Char)
  | hit (w : List Char)
  deriving DecidableEq, Repr

def Piece.source : Piece → List Char
  | .plain c => [c]
  | .hit w => w

def Piece.render (token : List Char) : Piece → List Char
  | .plain c => [c]
  | .hit _ => token

def Piece.hit? : Piece → Option (List Char)
  | .plain _ => none
  | .hit w => some w

def lastOr : Option Char → List Char → Option Char
  | prev, [] => prev
  | _, c :: w => lastOr (some c) w

@[simp] theorem lastOr_nil (prev : Option Char) : lastOr prev [] = prev := rfl

@[simp] theorem lastOr_cons (prev : Option Char) (c : Char) (w : List Char) :
    lastOr prev (c :: w) = lastOr (some c) w := rfl

@[simp] theorem lastOr_append (prev : Option Char) (u v : List Char) :
    lastOr prev (u ++ v) = lastOr (lastOr prev u) v := by
  induction u generalizing prev with
  | nil => rfl
  | cons c u ih => exact ih (some c)

theorem lastOr_eq_getLast? {w : List Char} (nonempty : w ≠ []) (prev : Option Char) :
    lastOr prev w = w.getLast? := by
  induction w generalizing prev with
  | nil => exact absurd rfl nonempty
  | cons c w ih =>
      cases w with
      | nil => rfl
      | cons d w => rw [lastOr_cons, ih (by simp), List.getLast?_cons_cons]

section
variable (t : CharTables)

def boundary (prev next : Option Char) : Bool :=
  prev.any t.isWord != next.any t.isWord

namespace Pattern

def fits (p : Pattern) (prev : Option Char) (w : List Char) (next : Option Char) : Bool :=
  !p.bounded || (boundary t prev w.head? && boundary t w.getLast? next)

def MatchesAt (p : Pattern) (prev : Option Char) (w : List Char) (next : Option Char) : Prop :=
  p.core.Lang t w ∧ p.fits t prev w next = true

def first (p : Pattern) (prev : Option Char) (s : List Char) : Option (List Char) :=
  ((p.core.run t s).find? fun m => p.fits t prev m.1 m.2.head?).map Prod.fst

def scan (p : Pattern) : Nat → Option Char → List Char → List Piece
  | _, _, [] => []
  | skip + 1, _, c :: s => p.scan skip (some c) s
  | 0, prev, c :: s =>
      match p.first t prev (c :: s) with
      | some w => .hit w :: p.scan (w.length - 1) (some c) s
      | none => .plain c :: p.scan 0 (some c) s

def pieces (p : Pattern) (s : List Char) : List Piece := p.scan t 0 none s

def sub (p : Pattern) (token : List Char) (s : List Char) : List Char :=
  (p.pieces t s).flatMap (Piece.render token)

def findAll (p : Pattern) (s : List Char) : List (List Char) :=
  (p.pieces t s).filterMap Piece.hit?

def Clean (p : Pattern) (s : List Char) : Prop :=
  ∀ pre w post, s = pre ++ w ++ post → ¬ p.MatchesAt t (lastOr none pre) w post.head?

theorem MatchesAt.ne_nil {p : Pattern} {prev next : Option Char} {w : List Char}
    (h : p.MatchesAt t prev w next) : w ≠ [] := by
  intro same
  subst same
  exact Nat.not_lt_zero _ (p.consumes.trans_le (p.core.minLength_le t h.1))

theorem first_some {p : Pattern} {prev : Option Char} {s w : List Char}
    (h : p.first t prev s = some w) :
    ∃ rest, s = w ++ rest ∧ p.MatchesAt t prev w rest.head? := by
  simp only [first, Option.map_eq_some_iff] at h
  obtain ⟨⟨_, rest⟩, found, rfl⟩ := h
  obtain ⟨split, lang⟩ := (p.core.mem_run_iff t _ _ _).mp (List.mem_of_find?_eq_some found)
  exact ⟨rest, split, lang, by simpa using List.find?_some found⟩

theorem first_none {p : Pattern} {prev : Option Char} {s : List Char}
    (h : p.first t prev s = none) (w rest : List Char) (split : s = w ++ rest) :
    ¬ p.MatchesAt t prev w rest.head? := by
  intro ⟨lang, fits⟩
  simp only [first, Option.map_eq_none_iff, List.find?_eq_none] at h
  exact h (w, rest) ((p.core.mem_run_iff t _ _ _).mpr ⟨split, lang⟩) fits

/-! ## What a scan does -/

/-- The text `s` after `prev`, cut into pieces: a character is kept only where no match starts. -/
inductive Cut (p : Pattern) : Option Char → List Char → List Piece → Prop
  | nil (prev : Option Char) : Cut p prev [] []
  | keep {prev : Option Char} {c : Char} {s : List Char} {ps : List Piece} :
      (∀ w rest, c :: s = w ++ rest → ¬ p.MatchesAt t prev w rest.head?) →
      Cut p (some c) s ps → Cut p prev (c :: s) (.plain c :: ps)
  | hit {prev : Option Char} {w s : List Char} {ps : List Piece} :
      p.MatchesAt t prev w s.head? → Cut p (lastOr prev w) s ps → Cut p prev (w ++ s) (.hit w :: ps)

theorem scan_skip (p : Pattern) (c : Char) (w s : List Char) :
    p.scan t w.length (some c) (w ++ s) = p.scan t 0 (lastOr (some c) w) s := by
  induction w generalizing c with
  | nil => rfl
  | cons d w ih => exact ih d

theorem scan_cut (p : Pattern) (prev : Option Char) (s : List Char) :
    Cut t p prev s (p.scan t 0 prev s) := by
  match s with
  | [] => exact .nil prev
  | c :: s =>
      rw [scan]
      split
      · rename_i w found
        obtain ⟨rest, split, here⟩ := first_some t found
        obtain ⟨d, w, rfl⟩ := List.exists_cons_of_ne_nil here.ne_nil
        obtain ⟨rfl, rfl⟩ : c = d ∧ s = w ++ rest := by simpa using split
        have shorter : rest.length < (c :: (w ++ rest)).length := by
          rw [List.length_cons, List.length_append]
          omega
        rw [List.length_cons, Nat.add_sub_cancel, scan_skip]
        exact .hit here (scan_cut p _ rest)
      · rename_i absent
        exact .keep (first_none t absent) (scan_cut p _ s)
termination_by s.length

theorem Cut.source {p : Pattern} {prev : Option Char} {s : List Char} {ps : List Piece}
    (h : Cut t p prev s ps) : ps.flatMap Piece.source = s := by
  induction h with
  | nil => rfl
  | keep _ _ ih => simp [Piece.source, ih]
  | hit _ _ ih => simp [Piece.source, ih]

theorem sub_eq_self {p : Pattern} {token s : List Char} (h : p.findAll t s = []) :
    p.sub t token s = s := by
  have source := (scan_cut t p none s).source
  have unhit : ∀ w, Piece.hit w ∉ p.pieces t s := by
    intro w mem
    have : w ∈ p.findAll t s := List.mem_filterMap.mpr ⟨_, mem, rfl⟩
    simp [h] at this
  calc p.sub t token s = (p.pieces t s).flatMap Piece.source := by
        apply List.flatMap_congr
        rintro (c | w) mem
        · rfl
        · exact absurd mem (unhit w)
    _ = s := source

theorem findAll_eq_nil {p : Pattern} {s : List Char} (clean : p.Clean t s) : p.findAll t s = [] := by
  have none_from : ∀ {prev s ps}, Cut t p prev s ps → ∀ pre whole, whole = pre ++ s →
      prev = lastOr none pre → p.Clean t whole → ps.filterMap Piece.hit? = [] := by
    intro prev s ps cut
    induction cut with
    | nil => intros; rfl
    | @keep prev c s ps _ _ ih =>
        intro pre whole split _ clean
        exact ih (pre ++ [c]) whole (by simp [split]) (by simp) clean
    | @hit prev w s ps here _ _ =>
        intro pre whole split left clean
        exact absurd (left ▸ here) (clean pre w s (by simp [split]))
  exact none_from (scan_cut t p none s) [] s rfl rfl clean

theorem Cut.clean {p : Pattern} {prev : Option Char} {s : List Char} {ps : List Piece}
    (cut : Cut t p prev s ps) (unhit : ps.filterMap Piece.hit? = []) :
    ∀ pre w post, s = pre ++ w ++ post → ¬ p.MatchesAt t (lastOr prev pre) w post.head? := by
  induction cut with
  | nil prev =>
      intro pre w post split found
      exact found.ne_nil t (List.append_eq_nil_iff.mp (List.append_eq_nil_iff.mp split.symm).1).2
  | @keep prev c s ps absent _ ih =>
      intro pre w post split
      cases pre with
      | nil => exact absent w post split
      | cons d pre =>
          obtain ⟨rfl, rest⟩ := List.cons.inj split
          exact ih unhit pre w post rest
  | hit => cases unhit

theorem findAll_eq_nil_iff {p : Pattern} {s : List Char} : p.findAll t s = [] ↔ p.Clean t s :=
  ⟨(scan_cut t p none s).clean t, findAll_eq_nil t⟩

/-! ## Words in a rewritten text -/

def LeftLink (p : Pattern) (token : List Char) (source out next : Option Char) : Prop :=
  source = out ∨ out = token.getLast? ∧ ∃ prev w, p.MatchesAt t prev w next ∧ source = w.getLast?

def RightLink (p : Pattern) (token : List Char) (prev source out : Option Char) : Prop :=
  source = out ∨ out = token.head? ∧ ∃ w next, p.MatchesAt t prev w next ∧ source = w.head?

structure Apart (token w : List Char) : Prop where
  tail : ∀ c ∈ token.head?, c ∉ w.tail
  suffix : ∀ v, v ≠ [] → v <:+ token → ¬ v <+: w ∧ ¬ w <+: v

theorem Cut.prefix_source {p : Pattern} {token : List Char} {first : Char}
    (starts : token.head? = some first) {prev : Option Char} {s : List Char} {ps : List Piece}
    (cut : Cut t p prev s ps) (w post : List Char) (away : first ∉ w)
    (out : ps.flatMap (Piece.render token) = w ++ post) :
    ∃ rest, s = w ++ rest ∧ RightLink t p token (lastOr prev w) rest.head? post.head? := by
  obtain ⟨token', rfl⟩ : ∃ token', token = first :: token' := by
    cases token <;> simp_all
  induction cut generalizing w with
  | nil prev =>
      obtain ⟨rfl, rfl⟩ := List.append_eq_nil_iff.mp out.symm
      exact ⟨[], rfl, Or.inl rfl⟩
  | @keep prev c s ps absent _ ih =>
      cases w with
      | nil =>
          refine ⟨c :: s, rfl, Or.inl ?_⟩
          rw [List.nil_append] at out
          rw [← out]
          rfl
      | cons d w =>
          obtain ⟨rfl, tail⟩ := List.cons.inj out
          obtain ⟨rest, rfl, link⟩ := ih w (by simp_all) tail
          exact ⟨rest, rfl, link⟩
  | @hit prev h s ps here _ ih =>
      cases w with
      | nil =>
          rw [List.nil_append] at out
          obtain ⟨d, h, rfl⟩ := List.exists_cons_of_ne_nil here.ne_nil
          exact ⟨d :: h ++ s, rfl, Or.inr ⟨by rw [← out]; rfl, d :: h, s.head?, here, rfl⟩⟩
      | cons d w =>
          have : first = d := (List.cons.inj out).1
          simp [this] at away

theorem Cut.occurrence {p : Pattern} {token : List Char} {first : Char}
    (starts : token.head? = some first) {source out : Option Char} {s : List Char}
    {ps : List Piece} (cut : Cut t p source s ps)
    (link : LeftLink t p token source out s.head?) (pre w post : List Char) (nonempty : w ≠ [])
    (apart : Apart token w) (text : ps.flatMap (Piece.render token) = pre ++ w ++ post) :
    ∃ before rest, s = before ++ w ++ rest ∧
      LeftLink t p token (lastOr source before) (lastOr out pre) w.head? ∧
      RightLink t p token w.getLast? rest.head? post.head? ∧
      ∀ u v, w ++ rest = u ++ v → ¬ p.MatchesAt t (lastOr source before) u v.head? := by
  induction cut generalizing pre out with
  | nil prev => simp_all
  | @keep prev c s ps absent cut ih =>
      cases pre with
      | nil =>
          obtain ⟨d, w, rfl⟩ := List.exists_cons_of_ne_nil nonempty
          obtain ⟨rfl, tail⟩ := List.cons.inj text
          obtain ⟨rest, rfl, right⟩ :=
            cut.prefix_source t starts w post (apart.tail first starts) tail
          refine ⟨[], rest, rfl, link, ?_, absent⟩
          rwa [← lastOr_eq_getLast? nonempty none]
      | cons d pre =>
          obtain ⟨rfl, tail⟩ := List.cons.inj text
          obtain ⟨before, rest, rfl, left, right, kept⟩ := ih (Or.inl rfl) pre tail
          exact ⟨c :: before, rest, rfl, left, right, kept⟩
  | @hit prev h s ps here cut ih =>
      have tokenNonempty : token ≠ [] := by rintro rfl; cases starts
      have after : LeftLink t p token (lastOr prev h) (lastOr out token) s.head? :=
        Or.inr ⟨lastOr_eq_getLast? tokenNonempty _, prev, h, here, lastOr_eq_getLast? here.ne_nil _⟩
      have beyond : ∃ pre', pre = token ++ pre' ∧
          ps.flatMap (Piece.render token) = pre' ++ w ++ post := by
        rw [List.flatMap_cons, Piece.render, List.append_assoc, List.append_eq_append_iff] at text
        rcases text with ⟨pre', preEq, text⟩ | ⟨v, tokenEq, text⟩
        · exact ⟨pre', preEq, by simpa using text⟩
        · cases v with
          | nil => exact ⟨[], by simpa using tokenEq.symm, by simpa using text.symm⟩
          | cons x v =>
              -- The word would start inside the token.
              have inside := apart.suffix (x :: v) (by simp) ⟨pre, tokenEq.symm⟩
              rcases List.append_eq_append_iff.mp text with ⟨y, yEq, -⟩ | ⟨y, yEq, -⟩
              · exact absurd ⟨y, yEq.symm⟩ inside.2
              · exact absurd ⟨y, yEq.symm⟩ inside.1
      obtain ⟨pre', rfl, tail⟩ := beyond
      obtain ⟨before, rest, rfl, left, right, kept⟩ := ih after pre' tail
      exact ⟨h ++ before, rest, by simp, by simpa using left, right, by simpa using kept⟩

/-! ## Substitution leaves its own pattern and the earlier ones without a match -/

def ApartFrom (p : Pattern) (token : List Char) : Prop :=
  ∀ w, p.core.Lang t w → Apart token w

def clearOf (r : Re) (token : List Char) : Bool :=
  token.head?.all (r.avoids t) && token.getLast?.all (r.avoids t) &&
    token.tails.all fun v => (r.run t v).isEmpty

theorem apartFrom_of_clearOf {p : Pattern} {token : List Char}
    (clear : clearOf t p.core token = true) : p.ApartFrom t token := by
  intro w lang
  simp only [clearOf, Bool.and_eq_true, List.all_eq_true, List.mem_tails, List.isEmpty_iff] at clear
  obtain ⟨⟨front, back⟩, inner⟩ := clear
  refine ⟨?_, ?_⟩
  · intro c hc mem
    have away : p.core.avoids t c = true := by simpa [Option.mem_def.mp hc] using front
    exact p.core.not_mem_of_avoids t away lang (List.mem_of_mem_tail mem)
  · intro v nonempty suffix
    constructor
    · intro prefixed
      have last : token.getLast? = some (v.getLast nonempty) := by
        obtain ⟨u, rfl⟩ := suffix
        rw [List.getLast?_append_of_ne_nil _ nonempty, List.getLast?_eq_getLast_of_ne_nil nonempty]
      have away : p.core.avoids t (v.getLast nonempty) = true := by simpa [last] using back
      exact p.core.not_mem_of_avoids t away lang
        (prefixed.subset (List.getLast_mem nonempty))
    · intro ⟨rest, same⟩
      subst same
      have mem := (p.core.mem_run_iff t _ w rest).mpr ⟨rfl, lang⟩
      simp [inner _ suffix] at mem

theorem fits_source {p q : Pattern} {token w : List Char} {source out next next' : Option Char}
    (delimited : p.bounded = true ∨ q.bounded = false)
    (left : LeftLink t p token source out w.head?)
    (right : RightLink t p token w.getLast? next next')
    (fits : q.fits t out w next' = true) : q.fits t source w next = true := by
  cases hq : q.bounded with
  | false => simp [Pattern.fits, hq]
  | true =>
      have hp : p.bounded = true := by simpa [hq] using delimited
      simp only [Pattern.fits, hq, Bool.not_true, Bool.false_or, Bool.and_eq_true] at fits ⊢
      constructor
      · rcases left with rfl | ⟨-, prev, h, here, rfl⟩
        · exact fits.1
        · have := here.2
          simp only [Pattern.fits, hp, Bool.not_true, Bool.false_or, Bool.and_eq_true] at this
          exact this.2
      · rcases right with rfl | ⟨-, h, after, here, rfl⟩
        · exact fits.2
        · have := here.2
          simp only [Pattern.fits, hp, Bool.not_true, Bool.false_or, Bool.and_eq_true] at this
          exact this.1

theorem MatchesAt.source {p q : Pattern} {token : List Char} {first : Char}
    (starts : token.head? = some first) (apart : q.ApartFrom t token)
    (delimited : p.bounded = true ∨ q.bounded = false) {s pre w post : List Char}
    (text : p.sub t token s = pre ++ w ++ post)
    (here : q.MatchesAt t (lastOr none pre) w post.head?) :
    ∃ before rest, s = before ++ w ++ rest ∧ q.MatchesAt t (lastOr none before) w rest.head? ∧
      ∀ u v, w ++ rest = u ++ v → ¬ p.MatchesAt t (lastOr none before) u v.head? := by
  obtain ⟨before, rest, split, left, right, kept⟩ :=
    (scan_cut t p none s).occurrence t starts (Or.inl rfl) pre w post here.ne_nil (apart w here.1) text
  exact ⟨before, rest, split, ⟨here.1, fits_source t delimited left right here.2⟩, kept⟩

theorem clean_sub_self {p : Pattern} {token : List Char} {first : Char}
    (starts : token.head? = some first) (apart : p.ApartFrom t token) (s : List Char) :
    p.Clean t (p.sub t token s) := by
  intro pre w post text here
  have delimited : p.bounded = true ∨ p.bounded = false := by cases p.bounded <;> simp
  obtain ⟨before, rest, -, original, kept⟩ := here.source t starts apart delimited text
  exact kept w rest rfl original

theorem Clean.sub {p q : Pattern} {token : List Char} {first : Char}
    (starts : token.head? = some first) (apart : q.ApartFrom t token)
    (delimited : p.bounded = true ∨ q.bounded = false) {s : List Char} (clean : q.Clean t s) :
    q.Clean t (p.sub t token s) := by
  intro pre w post text here
  obtain ⟨before, rest, split, original, -⟩ := here.source t starts apart delimited text
  exact clean before w rest split original

/-! ## Whole lists of patterns -/

def subAll (ps : List Pattern) (token s : List Char) : List Char :=
  ps.foldl (fun s p => p.sub t token s) s

/-- After all substitutions none of the patterns matches, when every pattern after a delimited one
is delimited as well. -/
theorem clean_subAll {token : List Char} {first : Char} (starts : token.head? = some first)
    (ps : List Pattern) (apart : ∀ p ∈ ps, p.ApartFrom t token)
    (delimited : ps.Pairwise fun q p => p.bounded = true ∨ q.bounded = false) (s : List Char) :
    ∀ p ∈ ps, p.Clean t (subAll t ps token s) := by
  have keeps : ∀ (ps : List Pattern) (q : Pattern) (s : List Char), q.ApartFrom t token →
      (∀ p ∈ ps, p.bounded = true ∨ q.bounded = false) → q.Clean t s →
      q.Clean t (subAll t ps token s) := by
    intro ps q
    induction ps with
    | nil => exact fun s _ _ clean => clean
    | cons p ps ih =>
        intro s apart delimited clean
        exact ih _ apart (fun p hp => delimited p (by simp [hp]))
          (clean.sub t starts apart (delimited p (by simp)))
  induction ps generalizing s with
  | nil => simp
  | cons p ps ih =>
      intro q hq
      rw [List.pairwise_cons] at delimited
      rcases List.mem_cons.mp hq with rfl | hq
      · exact keeps ps q _ (apart q (by simp)) delimited.1 (clean_sub_self t starts (apart q (by simp)) s)
      · exact ih (fun p hp => apart p (by simp [hp])) delimited.2 _ q hq

end Pattern

end

end RealityAI.Library.Regex
