import RealityAI.Library.Regex.Substitution
import Mathlib.Algebra.GroupWithZero.Nat
import Mathlib.Data.List.Perm.Basic

/-!
# What is left of a text after several substitutions

Later patterns scan a text that holds tokens already. Where their words stay apart from the token,
every word that is replaced is a word of the original text.
-/

namespace RealityAI.Library.Regex

/-- A character that is kept, or a word of the original text that a token has replaced. -/
inductive Segment (α : Type) where
  | plain (c : Char)
  | cut (tag : α) (w : List Char)

namespace Segment

variable {α : Type}

def source : Segment α → List Char
  | .plain c => [c]
  | .cut _ w => w

def render (token : List Char) : Segment α → List Char
  | .plain c => [c]
  | .cut _ _ => token

def cut? : Segment α → Option (α × List Char)
  | .plain _ => none
  | .cut tag w => some (tag, w)

def plains (w : List Char) : List (Segment α) := w.map .plain

@[simp] theorem plains_source (w : List Char) : (plains w : List (Segment α)).flatMap source = w := by
  induction w with
  | nil => rfl
  | cons c w ih => exact congrArg (c :: ·) ih

@[simp] theorem plains_render (token w : List Char) :
    (plains w : List (Segment α)).flatMap (render token) = w := by
  induction w with
  | nil => rfl
  | cons c w ih => exact congrArg (c :: ·) ih

@[simp] theorem plains_cut? (w : List Char) : (plains w : List (Segment α)).filterMap cut? = [] := by
  induction w with
  | nil => rfl
  | cons c w ih => exact ih

theorem render_length (token : List Char) (segs : List (Segment α)) :
    (segs.flatMap (render token)).length +
        ((segs.filterMap cut?).map fun entry => entry.2.length).sum =
      (segs.flatMap source).length + token.length * (segs.filterMap cut?).length := by
  induction segs with
  | nil => rfl
  | cons seg segs ih =>
      cases seg with
      | plain c =>
          simp only [List.flatMap_cons, render, source, cut?, List.filterMap_cons, List.length_append]
          omega
      | cut tag w =>
          simp only [List.flatMap_cons, render, source, cut?, List.filterMap_cons, List.length_append,
            List.map_cons, List.sum_cons, List.length_cons, Nat.mul_succ]
          omega

variable {token : List Char} {first : Char} (starts : token.head? = some first)
include starts

theorem split_away (segs : List (Segment α)) (w rest : List Char) (away : first ∉ w)
    (text : segs.flatMap (render token) = w ++ rest) :
    ∃ later, segs = plains w ++ later ∧ later.flatMap (render token) = rest := by
  induction w generalizing segs with
  | nil => exact ⟨segs, rfl, text⟩
  | cons c w ih =>
      cases segs with
      | nil => cases text
      | cons seg segs =>
          cases seg with
          | plain d =>
              obtain ⟨same, tail⟩ := List.cons.inj text
              obtain ⟨later, split, rendered⟩ := ih segs (fun mem => away (.tail _ mem)) tail
              exact ⟨later, by rw [split, same]; rfl, rendered⟩
          | cut tag u =>
              -- The token would begin inside the word.
              obtain ⟨token', rfl⟩ : ∃ token', token = first :: token' := by
                cases token <;> simp_all
              have here : first = c := (List.cons.inj text).1
              exact absurd (here ▸ List.mem_cons_self) away

theorem split_word (segs : List (Segment α)) (w rest : List Char) (nonempty : w ≠ [])
    (apart : Pattern.Apart token w) (text : segs.flatMap (render token) = w ++ rest) :
    ∃ later, segs = plains w ++ later ∧ later.flatMap (render token) = rest := by
  obtain ⟨c, w, rfl⟩ := List.exists_cons_of_ne_nil nonempty
  cases segs with
  | nil => cases text
  | cons seg segs =>
      cases seg with
      | plain d =>
          obtain ⟨same, tail⟩ := List.cons.inj text
          obtain ⟨later, split, rendered⟩ :=
            split_away starts segs w rest (apart.tail first starts) tail
          exact ⟨later, by rw [split, same]; rfl, rendered⟩
      | cut tag u =>
          have tokenNonempty : token ≠ [] := by rintro rfl; cases starts
          have outside := apart.suffix token tokenNonempty List.suffix_rfl
          rw [List.flatMap_cons, render] at text
          rcases List.append_eq_append_iff.mp text with ⟨y, same, -⟩ | ⟨y, same, -⟩
          · exact absurd ⟨y, same.symm⟩ outside.1
          · exact absurd ⟨y, same.symm⟩ outside.2

end Segment

section
variable (t : CharTables) {α : Type} {p : Pattern} {token : List Char}

theorem Pattern.Cut.through (apart : p.ApartFrom t token) {v : List Char} (suffix : v <:+ token)
    {prev : Option Char} {rest : List Char} {ps : List Piece} (cut : Cut t p prev (v ++ rest) ps) :
    ∃ later, ps = v.map .plain ++ later ∧ Cut t p (lastOr prev v) rest later := by
  induction v generalizing prev ps with
  | nil => exact ⟨ps, rfl, cut⟩
  | cons c v ih =>
      generalize text : c :: v ++ rest = s at cut
      cases cut with
      | nil => cases text
      | keep absent cut =>
          obtain ⟨rfl, rfl⟩ := List.cons.inj text
          obtain ⟨later, split, rest⟩ := ih ((List.suffix_cons c v).trans suffix) cut
          exact ⟨later, by rw [split]; rfl, rest⟩
      | @hit _ w s _ here cut =>
          have outside := (apart w here.1).suffix (c :: v) (by simp) suffix
          rcases List.append_eq_append_iff.mp text with ⟨y, same, -⟩ | ⟨y, same, -⟩
          · exact absurd ⟨y, same.symm⟩ outside.1
          · exact absurd ⟨y, same.symm⟩ outside.2

/-- The segments `segs'` cut out of the same text what `segs` do and the hits of `ps`. -/
structure Segment.Refines (token : List Char) (tag : α) (ps : List Piece)
    (segs segs' : List (Segment α)) : Prop where
  source : segs'.flatMap Segment.source = segs.flatMap Segment.source
  render : segs'.flatMap (Segment.render token) = ps.flatMap (Piece.render token)
  cuts : (segs'.filterMap Segment.cut?).Perm
    (segs.filterMap Segment.cut? ++ (ps.filterMap Piece.hit?).map (tag, ·))

theorem plain_pieces (token v : List Char) : (v.map Piece.plain).flatMap (Piece.render token) = v := by
  induction v with
  | nil => rfl
  | cons c v ih => exact congrArg (c :: ·) ih

theorem plain_hits (v : List Char) : (v.map Piece.plain).filterMap Piece.hit? = [] := by
  induction v with
  | nil => rfl
  | cons c v ih => exact ih

theorem Segment.Refines.plain {tag : α} {ps : List Piece} {segs segs' : List (Segment α)} (c : Char)
    (refines : Refines token tag ps segs segs') :
    Refines token tag (.plain c :: ps) (.plain c :: segs) (.plain c :: segs') where
  source := congrArg (c :: ·) refines.source
  render := congrArg (c :: ·) refines.render
  cuts := refines.cuts

theorem Segment.Refines.cut {tag : α} {ps : List Piece} {segs segs' : List (Segment α)} (tag' : α)
    (w : List Char) (refines : Refines token tag ps segs segs') :
    Refines token tag (token.map .plain ++ ps) (.cut tag' w :: segs) (.cut tag' w :: segs') where
  source := congrArg (w ++ ·) refines.source
  render := by
    rw [List.flatMap_append, plain_pieces]
    exact congrArg (token ++ ·) refines.render
  cuts := by
    rw [List.filterMap_append, plain_hits]
    exact refines.cuts.cons (tag', w)

theorem Segment.Refines.hit {tag : α} {ps : List Piece} {segs segs' : List (Segment α)}
    (w : List Char) (refines : Refines token tag ps segs segs') :
    Refines token tag (.hit w :: ps) (plains w ++ segs) (.cut tag w :: segs') where
  source := by
    rw [List.flatMap_append, plains_source]
    exact congrArg (w ++ ·) refines.source
  render := congrArg (token ++ ·) refines.render
  cuts := by
    rw [List.filterMap_append, plains_cut?]
    exact (refines.cuts.cons (tag, w)).trans List.perm_middle.symm

theorem Pattern.Cut.refines {first : Char} (starts : token.head? = some first)
    (apart : p.ApartFrom t token) (tag : α) (segs : List (Segment α)) {prev : Option Char}
    {ps : List Piece} (cut : Cut t p prev (segs.flatMap (Segment.render token)) ps) :
    ∃ segs', Segment.Refines token tag ps segs segs' := by
  match segs with
  | [] =>
      generalize text : ([] : List (Segment α)).flatMap (Segment.render token) = s at cut
      cases cut with
      | nil => exact ⟨[], rfl, rfl, List.Perm.refl _⟩
      | keep => cases text
      | @hit _ w s _ here cut => exact absurd (List.append_eq_nil_iff.mp text.symm).1 here.ne_nil
  | .cut tag' u :: segs =>
      obtain ⟨later, rfl, rest⟩ := cut.through t apart (List.suffix_refl token)
      obtain ⟨segs', refines⟩ := Pattern.Cut.refines starts apart tag segs rest
      exact ⟨_, refines.cut tag' u⟩
  | .plain c :: segs =>
      generalize text : (.plain c :: segs).flatMap (Segment.render token) = s at cut
      cases cut with
      | nil => cases text
      | keep absent cut =>
          obtain ⟨rfl, rfl⟩ := List.cons.inj text
          obtain ⟨segs', refines⟩ := Pattern.Cut.refines starts apart tag segs cut
          exact ⟨_, refines.plain c⟩
      | @hit _ w s _ here cut =>
          obtain ⟨later, split, rfl⟩ :=
            Segment.split_word starts (.plain c :: segs) w s here.ne_nil (apart w here.1) text
          obtain ⟨segs', refines⟩ := Pattern.Cut.refines starts apart tag later cut
          exact ⟨_, split ▸ refines.hit w⟩
termination_by segs.length
decreasing_by
  · simp
  · simp
  · have lengths := congrArg List.length split
    have positive := List.length_pos_iff.mpr here.ne_nil
    simp [Segment.plains] at lengths
    simp only [List.length_cons]
    omega

theorem Pattern.lang_of_findAll {s w : List Char} (mem : w ∈ p.findAll t s) : p.core.Lang t w := by
  have hits {prev : Option Char} {s : List Char} {ps : List Piece} (cut : Cut t p prev s ps) :
      ∀ w ∈ ps.filterMap Piece.hit?, p.core.Lang t w := by
    induction cut with
    | nil => nofun
    | keep _ _ ih => exact ih
    | hit here _ ih => exact List.forall_mem_cons.mpr ⟨here.1, ih⟩
  exact hits (scan_cut t p none s) w mem

end

end RealityAI.Library.Regex
