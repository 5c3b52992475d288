import Mathlib.Data.List.Basic
import Mathlib.Data.List.TakeWhile

/-!
# Regular expressions with a prioritised matcher

The fragment of `re` syntax without captures, lookaround and repetition of groups: character
classes, concatenation, ordered alternation and greedy repetition of one class. `Lang` is the
language, `run` the list of all ways to match a prefix, in the order in which a backtracking engine
tries them; `mem_run_iff` says that the two agree.
-/

namespace RealityAI.Library.Regex

/-- The part of the Unicode tables that lies outside ASCII. -/
structure CharTables where
  digit : Char → Bool
  space : Char → Bool
  word : Char → Bool

namespace CharTables

def isDigit (t : CharTables) (c : Char) : Bool :=
  if c.toNat < 128 then c.isDigit else t.digit c

def isSpace (t : CharTables) (c : Char) : Bool :=
  if c.toNat < 128 then (9 ≤ c.toNat && c.toNat ≤ 13) || (28 ≤ c.toNat && c.toNat ≤ 32)
  else t.space c

def isWord (t : CharTables) (c : Char) : Bool :=
  if c.toNat < 128 then c.isAlphanum || c == '_' else t.word c

end CharTables

inductive ClassItem where
  | one (c : Char)
  | range (lo hi : Char)
  | digit
  | space
  deriving DecidableEq, Repr

def ClassItem.mem (t : CharTables) : ClassItem → Char → Bool
  | .one d, c => c == d
  | .range lo hi, c => lo.toNat ≤ c.toNat && c.toNat ≤ hi.toNat
  | .digit, c => t.isDigit c
  | .space, c => t.isSpace c

abbrev CharClass := List ClassItem

def CharClass.mem (t : CharTables) (cls : CharClass) (c : Char) : Bool :=
  cls.any fun item => item.mem t c

inductive Re where
  | eps
  | cls (c : CharClass)
  | seq (a b : Re)
  | alt (a b : Re)
  | rep (c : CharClass) (lo : Nat) (hi : Option Nat)
  deriving DecidableEq, Repr

namespace Re

def one (c : Char) : Re := .cls [.one c]

def lit : List Char → Re
  | [] => .eps
  | c :: cs => .seq (one c) (lit cs)

def str (s : String) : Re := lit s.toList

def ignoreCase (c : Char) : CharClass :=
  [.one c.toLower, .one c.toUpper] ++
    match c.toLower with
    | 'i' => [.one 'İ', .one 'ı']
    | 'k' => [.one '\u212a']
    | 's' => [.one 'ſ']
    | _ => []

def seqs : List Re → Re
  | [] => .eps
  | [r] => r
  | r :: rs => .seq r (seqs rs)

def strIgnoreCase (s : String) : Re := seqs (s.toList.map fun c => .cls (ignoreCase c))

def opt (r : Re) : Re := .alt r .eps

def anyOf : List Re → Re
  | [] => .cls []
  | [r] => r
  | r :: rs => .alt r (anyOf rs)

def Lang (t : CharTables) : Re → List Char → Prop
  | .eps, w => w = []
  | .cls c, w => ∃ x, c.mem t x = true ∧ w = [x]
  | .seq a b, w => ∃ u v, a.Lang t u ∧ b.Lang t v ∧ w = u ++ v
  | .alt a b, w => a.Lang t w ∨ b.Lang t w
  | .rep c lo hi, w => (∀ x ∈ w, c.mem t x = true) ∧ lo ≤ w.length ∧ ∀ h ∈ hi, w.length ≤ h

def repLimit (t : CharTables) (c : CharClass) (hi : Option Nat) (s : List Char) : Nat :=
  let n := (s.takeWhile (c.mem t)).length
  hi.elim n (min n)

/-- Every way to match a prefix, with the rest, the engine's first choice first. -/
def run (t : CharTables) : Re → List Char → List (List Char × List Char)
  | .eps, s => [([], s)]
  | .cls _, [] => []
  | .cls c, x :: s => if c.mem t x then [([x], s)] else []
  | .seq a b, s => (a.run t s).flatMap fun p => (b.run t p.2).map fun q => (p.1 ++ q.1, q.2)
  | .alt a b, s => a.run t s ++ b.run t s
  | .rep c lo hi, s =>
      ((List.range (repLimit t c hi s + 1)).reverse.filter fun k => lo ≤ k).map fun k =>
        (s.take k, s.drop k)

section
variable (t : CharTables)

theorem le_takeWhile_length {p : Char → Bool} {w rest : List Char} (all : ∀ x ∈ w, p x = true) :
    w.length ≤ ((w ++ rest).takeWhile p).length := by
  induction w with
  | nil => simp
  | cons x w ih =>
      have hx := all x (by simp)
      have := ih fun y hy => all y (by simp [hy])
      simp only [List.cons_append, List.takeWhile_cons, hx, if_true, List.length_cons]
      omega

theorem mem_take_of_takeWhile {p : Char → Bool} {s : List Char} {k : Nat}
    (le : k ≤ (s.takeWhile p).length) : ∀ x ∈ s.take k, p x = true := by
  induction s generalizing k with
  | nil => simp
  | cons y s ih =>
      cases k with
      | zero => simp
      | succ k =>
          by_cases hy : p y = true
          · rw [List.takeWhile_cons_of_pos hy, List.length_cons] at le
            intro x hx
            rcases List.mem_cons.mp hx with rfl | hx
            · exact hy
            · exact ih (Nat.le_of_succ_le_succ le) x hx
          · rw [List.takeWhile_cons_of_neg hy] at le
            simp at le

theorem mem_run_rep (c : CharClass) (lo : Nat) (hi : Option Nat) (s w rest : List Char) :
    (w, rest) ∈ (Re.rep c lo hi).run t s ↔ s = w ++ rest ∧ (Re.rep c lo hi).Lang t w := by
  have limit : repLimit t c hi s ≤ (s.takeWhile (c.mem t)).length := by
    cases hi with
    | none => exact le_rfl
    | some h => exact Nat.min_le_left _ _
  simp only [run, List.mem_map, List.mem_filter, List.mem_reverse, List.mem_range,
    decide_eq_true_eq, Prod.mk.injEq, Lang]
  constructor
  · rintro ⟨k, ⟨bound, least⟩, rfl, rfl⟩
    have short : k ≤ s.length :=
      (Nat.le_of_lt_succ bound).trans (limit.trans (List.takeWhile_prefix _).length_le)
    have length : (s.take k).length = k := by simp [short]
    refine ⟨(List.take_append_drop k s).symm, ?_, by omega, ?_⟩
    · exact mem_take_of_takeWhile ((Nat.le_of_lt_succ bound).trans limit)
    · intro h same
      subst same
      simp only [repLimit, Option.elim_some] at bound
      omega
  · intro ⟨same, all, least, most⟩
    subst same
    have whole : w.length ≤ ((w ++ rest).takeWhile (c.mem t)).length := le_takeWhile_length all
    refine ⟨w.length, ⟨?_, least⟩, by simp, by simp⟩
    cases hi with
    | none => simpa [repLimit] using Nat.lt_succ_of_le whole
    | some h =>
        have := most h rfl
        simp only [repLimit, Option.elim_some]
        omega

theorem mem_run_iff (r : Re) (s w rest : List Char) :
    (w, rest) ∈ r.run t s ↔ s = w ++ rest ∧ r.Lang t w := by
  induction r generalizing s w rest with
  | eps =>
      simp only [run, List.mem_singleton, Prod.mk.injEq, Lang]
      constructor
      · rintro ⟨rfl, rfl⟩
        exact ⟨rfl, rfl⟩
      · rintro ⟨rfl, rfl⟩
        exact ⟨rfl, rfl⟩
  | cls c =>
      cases s with
      | nil => simp only [run, List.not_mem_nil, Lang, false_iff]; rintro ⟨h, x, -, rfl⟩; cases h
      | cons x s =>
          simp only [run, Lang]
          by_cases hx : c.mem t x = true
          · simp only [hx, if_true, List.mem_singleton, Prod.mk.injEq]
            constructor
            · rintro ⟨rfl, rfl⟩
              exact ⟨rfl, x, hx, rfl⟩
            · intro ⟨h, y, _, same⟩
              subst same
              simp only [List.cons_append, List.nil_append, List.cons.injEq] at h
              exact ⟨by rw [h.1], h.2.symm⟩
          · simp only [hx, Bool.false_eq_true, if_false, List.not_mem_nil, false_iff]
            intro ⟨h, y, hy, same⟩
            subst same
            simp only [List.cons_append, List.nil_append, List.cons.injEq] at h
            exact hx (h.1 ▸ hy)
  | seq a b iha ihb =>
      simp only [run, List.mem_flatMap, List.mem_map, Prod.exists, Prod.mk.injEq, Lang]
      constructor
      · rintro ⟨u, s₁, hu, v, s₂, hv, rfl, rfl⟩
        obtain ⟨rfl, langU⟩ := (iha _ _ _).mp hu
        obtain ⟨rfl, langV⟩ := (ihb _ _ _).mp hv
        exact ⟨by simp, u, v, langU, langV, rfl⟩
      · rintro ⟨rfl, u, v, langU, langV, rfl⟩
        exact ⟨u, v ++ rest, (iha _ _ _).mpr ⟨by simp, langU⟩, v, rest,
          (ihb _ _ _).mpr ⟨rfl, langV⟩, rfl, rfl⟩
  | alt a b iha ihb =>
      simp only [run, List.mem_append, iha, ihb, Lang]
      tauto
  | rep c lo hi => exact mem_run_rep t c lo hi s w rest

end

def minLength : Re → Nat
  | .eps => 0
  | .cls _ => 1
  | .seq a b => a.minLength + b.minLength
  | .alt a b => min a.minLength b.minLength
  | .rep _ lo _ => lo

theorem minLength_le (t : CharTables) (r : Re) {w : List Char} (h : r.Lang t w) :
    r.minLength ≤ w.length := by
  induction r generalizing w with
  | eps => simp [minLength]
  | cls c =>
      obtain ⟨x, -, rfl⟩ := h
      simp [minLength]
  | seq a b iha ihb =>
      obtain ⟨u, v, hu, hv, rfl⟩ := h
      have := iha hu
      have := ihb hv
      simp only [minLength, List.length_append]
      omega
  | alt a b iha ihb =>
      simp only [minLength]
      rcases h with h | h
      · have := iha h
        omega
      · have := ihb h
        omega
  | rep c lo hi => exact h.2.1

def avoids (t : CharTables) (x : Char) : Re → Bool
  | .eps => true
  | .cls c => !c.mem t x
  | .seq a b => a.avoids t x && b.avoids t x
  | .alt a b => a.avoids t x && b.avoids t x
  | .rep c _ _ => !c.mem t x

theorem not_mem_of_avoids (t : CharTables) {x : Char} (r : Re) {w : List Char}
    (away : r.avoids t x = true) (h : r.Lang t w) : x ∉ w := by
  induction r generalizing w with
  | eps =>
      obtain rfl := h
      simp
  | cls c =>
      obtain ⟨y, hy, rfl⟩ := h
      simp only [avoids, Bool.not_eq_true'] at away
      simp only [List.mem_singleton]
      intro same
      subst same
      simp [hy] at away
  | seq a b iha ihb =>
      obtain ⟨u, v, hu, hv, rfl⟩ := h
      simp only [avoids, Bool.and_eq_true] at away
      simp only [List.mem_append, not_or]
      exact ⟨iha away.1 hu, ihb away.2 hv⟩
  | alt a b iha ihb =>
      simp only [avoids, Bool.and_eq_true] at away
      exact h.elim (iha away.1) (ihb away.2)
  | rep c lo hi =>
      simp only [avoids, Bool.not_eq_true'] at away
      intro hx
      simp [h.1 x hx] at away

theorem lang_one (t : CharTables) (c : Char) (w : List Char) : (one c).Lang t w ↔ w = [c] := by
  simp [one, Lang, CharClass.mem, ClassItem.mem]

theorem lang_lit (t : CharTables) (l w : List Char) : (lit l).Lang t w ↔ w = l := by
  induction l generalizing w with
  | nil => rfl
  | cons c l ih =>
      simp only [lit, Lang, lang_one, ih]
      constructor
      · rintro ⟨u, v, rfl, rfl, rfl⟩
        rfl
      · intro same
        subst same
        exact ⟨[c], l, rfl, rfl, rfl⟩

theorem minLength_lit (l : List Char) : (lit l).minLength = l.length := by
  induction l with
  | nil => rfl
  | cons c l ih => simp [lit, minLength, one, ih, Nat.add_comm]

end Re

end RealityAI.Library.Regex
