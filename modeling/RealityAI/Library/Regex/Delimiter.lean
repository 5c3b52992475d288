import RealityAI.Library.Regex.Substitution

/-!
# Bracketed words

A pattern whose words start with one character and end with another, both nowhere else in the word.
Two such words never overlap, so a text that was put together from them is taken apart in one way.
-/

namespace RealityAI.Library.Regex

def gaps : List Piece → List (List Char)
  | [] => [[]]
  | .plain c :: ps => (gaps ps).modifyHead (c :: ·)
  | .hit _ :: ps => [] :: gaps ps

theorem gaps_plain_append (gap : List Char) (ps : List Piece) :
    gaps (gap.map .plain ++ ps) = (gaps ps).modifyHead (gap ++ ·) := by
  induction gap with
  | nil => exact (congrFun List.modifyHead_id (gaps ps)).symm
  | cons c gap ih =>
      rw [List.map_cons, List.cons_append, gaps, ih, List.modifyHead_modifyHead]
      rfl

theorem gaps_plain (gap : List Char) : gaps (gap.map .plain) = [gap] := by
  simpa [gaps] using gaps_plain_append gap []

theorem plain_filterMap_hit (gap : List Char) : (gap.map Piece.plain).filterMap Piece.hit? = [] := by
  simp [Piece.hit?]

theorem append_of_not_mem {n s x r : List Char} {c : Char} (away : c ∉ n)
    (text : n ++ s = x ++ c :: r) : ∃ y, x = n ++ y ∧ s = y ++ c :: r := by
  rcases List.append_eq_append_iff.mp text with ⟨y, xEq, sEq⟩ | ⟨y, nEq, tail⟩
  · exact ⟨y, xEq, sEq⟩
  · cases y with
    | nil => exact ⟨[], by simp_all, by simp_all⟩
    | cons d y =>
        obtain ⟨rfl, -⟩ := List.cons.inj tail
        simp [nEq] at away

def OccursOnce (w s : List Char) : Prop :=
  ∃! place : List Char × List Char, s = place.1 ++ w ++ place.2

namespace Pattern

variable (t : CharTables)

def split (p : Pattern) (s : List Char) : List (List Char) := gaps (p.pieces t s)

structure Bracketed (p : Pattern) (left right : Char) : Prop where
  free : p.bounded = false
  opens : ∀ w, p.core.Lang t w → ∃ v, w = left :: v ∧ left ∉ v
  closes : ∀ w, p.core.Lang t w → ∃ v, w = v ++ [right] ∧ right ∉ v

theorem fits_of_free {p : Pattern} (free : p.bounded = false) (prev : Option Char) (w : List Char)
    (next : Option Char) : p.fits t prev w next = true := by
  simp [fits, free]

theorem clean_iff_of_free {p : Pattern} (free : p.bounded = false) (s : List Char) :
    p.Clean t s ↔ ∀ w, p.core.Lang t w → ¬ w <:+: s := by
  constructor
  · intro clean w lang ⟨pre, post, text⟩
    exact clean pre w post text.symm ⟨lang, fits_of_free t free _ _ _⟩
  · intro absent pre w post same ⟨lang, _⟩
    subst same
    exact absent w lang ⟨pre, post, rfl⟩

theorem clean_append_cons {p : Pattern} (free : p.bounded = false) {c : Char}
    (away : p.core.avoids t c = true) {u v : List Char} (left : p.Clean t u) (right : p.Clean t v) :
    p.Clean t (u ++ c :: v) := by
  rw [clean_iff_of_free t free] at left right ⊢
  intro w lang ⟨pre, post, text⟩
  have outside := p.core.not_mem_of_avoids t away lang
  rw [List.append_assoc, List.append_eq_append_iff] at text
  rcases text with ⟨x, rfl, text⟩ | ⟨x, rfl, text⟩
  · rcases List.append_eq_append_iff.mp text with ⟨y, rfl, -⟩ | ⟨y, wEq, -⟩
    · exact left w lang ⟨pre, y, by simp⟩
    · cases y with
      | nil => exact left w lang ⟨pre, [], by simp_all⟩
      | cons d y => simp_all
  · cases x with
    | nil =>
        cases w with
        | nil => exact left [] lang (List.nil_infix)
        | cons d w => simp_all
    | cons d x =>
        obtain ⟨rfl, rfl⟩ := List.cons.inj text
        exact right w lang ⟨x, post, by simp⟩

theorem clean_of_not_mem {p : Pattern} {left right : Char} (bracketed : p.Bracketed t left right)
    {s : List Char} (away : left ∉ s) : p.Clean t s := by
  rw [clean_iff_of_free t bracketed.free]
  intro w lang inside
  obtain ⟨v, rfl, -⟩ := bracketed.opens w lang
  exact away (inside.subset (by simp))

theorem Bracketed.unique {p : Pattern} {left right : Char} (bracketed : p.Bracketed t left right)
    {m w s post : List Char} (word : p.core.Lang t m) (lang : p.core.Lang t w)
    (text : m ++ s = w ++ post) : w = m ∧ post = s := by
  obtain ⟨u, rfl, lastM⟩ := bracketed.closes m word
  obtain ⟨v, rfl, lastW⟩ := bracketed.closes w lang
  simp only [List.append_assoc, List.singleton_append] at text
  obtain ⟨y, rfl, rest⟩ := append_of_not_mem lastM text
  cases y with
  | nil =>
      obtain ⟨-, rfl⟩ := List.cons.inj rest
      exact ⟨by simp, rfl⟩
  | cons d y =>
      obtain ⟨rfl, -⟩ := List.cons.inj rest
      simp at lastW

theorem Bracketed.occurrence {p : Pattern} {left right : Char}
    (bracketed : p.Bracketed t left right) {gap m s pre w post : List Char} (clean : p.Clean t gap)
    (word : p.core.Lang t m) (lang : p.core.Lang t w)
    (text : gap ++ m ++ s = pre ++ w ++ post) :
    pre = gap ∧ w = m ∧ post = s ∨ ∃ pre', pre = gap ++ m ++ pre' ∧ s = pre' ++ w ++ post := by
  rw [clean_iff_of_free t bracketed.free] at clean
  obtain ⟨v, wEq, outsideW⟩ := bracketed.opens w lang
  obtain ⟨n, mEq, outsideM⟩ := bracketed.opens m word
  have same (h : m ++ s = w ++ post) := bracketed.unique t word lang h
  rw [List.append_assoc, List.append_assoc, List.append_eq_append_iff] at text
  rcases text with ⟨x, rfl, text⟩ | ⟨x, rfl, text⟩
  · cases x with
    | nil => exact Or.inl ⟨by simp, same text⟩
    | cons d x =>
        -- The word starts after the bracket that opens `m`, so it starts after `m`.
        rw [mEq, wEq] at text
        obtain ⟨rfl, later⟩ := List.cons.inj text
        obtain ⟨y, rfl, rfl⟩ := append_of_not_mem outsideM later
        exact Or.inr ⟨y, by simp [mEq], by simp [wEq]⟩
  · cases x with
    | nil => exact Or.inl ⟨by simp, same (by simpa using text.symm)⟩
    | cons d x =>
        -- It starts inside the gap, so it cannot reach the bracket that opens `m`.
        rw [mEq, wEq] at text
        obtain ⟨rfl, inside⟩ := List.cons.inj text
        obtain ⟨y, rfl, -⟩ := append_of_not_mem outsideW inside
        exact absurd ⟨pre, y, by simp [wEq]⟩ (clean w lang)

theorem Bracketed.apartFrom {p : Pattern} {left right : Char} (bracketed : p.Bracketed t left right)
    {c : Char} {rest : List Char} (once : left ∉ c :: rest)
    (other : ∀ w, p.core.Lang t w → ∃ d v, w = left :: d :: v ∧ d ≠ c) :
    p.ApartFrom t (left :: c :: rest) := by
  intro w lang
  obtain ⟨d, v, rfl, differs⟩ := other w lang
  refine ⟨fun e he => ?_, fun u nonempty suffix => ?_⟩
  · obtain ⟨v', same, outside⟩ := bracketed.opens _ lang
    obtain rfl : left = e := by simpa using he
    simpa [(List.cons.inj same).2] using outside
  · rcases List.suffix_cons_iff.mp suffix with rfl | inner
    · simp only [List.cons_prefix_cons, true_and]
      exact ⟨fun short => differs short.1.symm, fun long => differs long.1⟩
    · obtain ⟨e, u, rfl⟩ := List.exists_cons_of_ne_nil nonempty
      have away : left ≠ e := by
        intro same
        subst same
        exact once (inner.subset (by simp))
      exact ⟨fun short => away (List.cons_prefix_cons.mp short).1.symm,
        fun long => away (List.cons_prefix_cons.mp long).1⟩

theorem Clean.tail {p : Pattern} (free : p.bounded = false) {c : Char} {s : List Char}
    (clean : p.Clean t (c :: s)) : p.Clean t s := by
  rw [clean_iff_of_free t free] at clean ⊢
  exact fun w lang inside => clean w lang (List.infix_cons inside)

theorem scan_clean {p : Pattern} (free : p.bounded = false) {gap : List Char}
    (clean : p.Clean t gap) (prev : Option Char) : p.scan t 0 prev gap = gap.map .plain := by
  induction gap generalizing prev with
  | nil => rfl
  | cons c gap ih =>
      rw [scan]
      split
      · rename_i w found
        obtain ⟨rest, text, here⟩ := first_some t found
        exact absurd ⟨here.1, fits_of_free t free _ _ _⟩ (clean [] w rest text)
      · rw [ih (clean.tail t free), List.map_cons]

theorem Bracketed.scan {p : Pattern} {left right : Char} (bracketed : p.Bracketed t left right)
    {gap m : List Char} (clean : p.Clean t gap) (word : p.core.Lang t m) (prev : Option Char)
    (s : List Char) :
    p.scan t 0 prev (gap ++ m ++ s) =
      gap.map .plain ++ .hit m :: p.scan t 0 (lastOr prev (gap ++ m)) s := by
  induction gap generalizing prev with
  | nil =>
      obtain ⟨n, rfl, -⟩ := bracketed.opens m word
      have found : p.first t prev (left :: n ++ s) = some (left :: n) := by
        cases h : p.first t prev (left :: n ++ s) with
        | none => exact absurd ⟨word, fits_of_free t bracketed.free _ _ _⟩ (first_none t h _ s rfl)
        | some w =>
            obtain ⟨rest, text, here⟩ := first_some t h
            rw [(bracketed.unique t word here.1 text).1]
      simp only [List.cons_append] at found
      simp only [List.nil_append, List.cons_append, Pattern.scan, found, List.map_nil,
        List.length_cons, Nat.add_sub_cancel, scan_skip, lastOr_cons]
  | cons c gap ih =>
      have kept : p.first t prev (c :: gap ++ m ++ s) = none := by
        cases h : p.first t prev (c :: gap ++ m ++ s) with
        | none => rfl
        | some w =>
            obtain ⟨rest, text, here⟩ := first_some t h
            rcases bracketed.occurrence t clean word here.1 (List.nil_append w ▸ text) with
              ⟨impossible, -⟩ | ⟨pre, impossible, -⟩
            · cases impossible
            · simp at impossible
      simp only [List.cons_append] at kept
      simp only [List.cons_append, Pattern.scan, kept, List.map_cons, lastOr_cons]
      rw [ih (clean.tail t bracketed.free)]

def assemble (parts : List (List Char × List Char)) (last : List Char) : List Char :=
  parts.flatMap (fun part => part.1 ++ part.2) ++ last

theorem assemble_append (before after : List (List Char × List Char)) (last : List Char) :
    assemble (before ++ after) last = assemble before [] ++ assemble after last := by
  simp [assemble]

theorem assemble_cons (part : List Char × List Char) (parts : List (List Char × List Char))
    (last : List Char) : assemble (part :: parts) last = part.1 ++ part.2 ++ assemble parts last := by
  simp [assemble]

theorem assemble_last (parts : List (List Char × List Char)) (last : List Char) :
    assemble parts last = assemble parts [] ++ last := by
  simp [assemble]

structure Separated (p : Pattern) (parts : List (List Char × List Char)) (last : List Char) :
    Prop where
  gap : ∀ part ∈ parts, p.Clean t part.1
  word : ∀ part ∈ parts, p.core.Lang t part.2
  last : p.Clean t last

theorem Separated.of_cons {p : Pattern} {part : List Char × List Char}
    {parts : List (List Char × List Char)} {last : List Char}
    (separated : p.Separated t (part :: parts) last) : p.Separated t parts last where
  gap q hq := separated.gap q (by simp [hq])
  word q hq := separated.word q (by simp [hq])
  last := separated.last

theorem Bracketed.pieces_assemble {p : Pattern} {left right : Char}
    (bracketed : p.Bracketed t left right) {parts : List (List Char × List Char)}
    {last : List Char} (separated : p.Separated t parts last) :
    p.pieces t (assemble parts last) =
      parts.flatMap (fun part => part.1.map .plain ++ [.hit part.2]) ++ last.map .plain := by
  suffices ∀ prev, p.scan t 0 prev (assemble parts last) =
      parts.flatMap (fun part => part.1.map .plain ++ [.hit part.2]) ++ last.map .plain from this none
  induction parts with
  | nil => exact fun prev => scan_clean t bracketed.free separated.last prev
  | cons part parts ih =>
      intro prev
      rw [assemble_cons, bracketed.scan t (separated.gap part (by simp))
        (separated.word part (by simp)), ih separated.of_cons]
      simp

theorem Bracketed.findAll_assemble {p : Pattern} {left right : Char}
    (bracketed : p.Bracketed t left right) {parts : List (List Char × List Char)}
    {last : List Char} (separated : p.Separated t parts last) :
    p.findAll t (assemble parts last) = parts.map Prod.snd := by
  rw [findAll, bracketed.pieces_assemble t separated, List.filterMap_append, plain_filterMap_hit,
    List.append_nil]
  induction parts with
  | nil => rfl
  | cons part parts ih =>
      simp [List.filterMap_append, Piece.hit?, ih separated.of_cons]

theorem Bracketed.split_assemble {p : Pattern} {left right : Char}
    (bracketed : p.Bracketed t left right) {parts : List (List Char × List Char)}
    {last : List Char} (separated : p.Separated t parts last) :
    p.split t (assemble parts last) = parts.map Prod.fst ++ [last] := by
  rw [split, bracketed.pieces_assemble t separated]
  clear separated
  induction parts with
  | nil => exact gaps_plain last
  | cons part parts ih =>
      rw [List.flatMap_cons, List.append_assoc, List.append_assoc, gaps_plain_append,
        List.singleton_append, gaps, ih]
      simp

theorem Bracketed.occurrence_assemble {p : Pattern} {left right : Char}
    (bracketed : p.Bracketed t left right) {parts : List (List Char × List Char)}
    {last : List Char} (separated : p.Separated t parts last) {pre w post : List Char}
    (lang : p.core.Lang t w) (text : assemble parts last = pre ++ w ++ post) :
    ∃ before gap after, parts = before ++ (gap, w) :: after ∧ pre = assemble before gap ∧
      post = assemble after last := by
  induction parts generalizing pre with
  | nil =>
      have clean := separated.last
      rw [clean_iff_of_free t bracketed.free] at clean
      exact absurd ⟨pre, post, text.symm⟩ (clean w lang)
  | cons part parts ih =>
      rw [assemble_cons] at text
      rcases bracketed.occurrence t (separated.gap part (by simp)) (separated.word part (by simp))
          lang text with ⟨rfl, rfl, rfl⟩ | ⟨pre', rfl, later⟩
      · exact ⟨[], part.1, parts, rfl, rfl, rfl⟩
      · obtain ⟨before, gap, after, rfl, rfl, rfl⟩ := ih separated.of_cons later
        exact ⟨part :: before, gap, after, rfl, (assemble_cons _ _ _).symm, rfl⟩

theorem Bracketed.occursOnce {p : Pattern} {left right : Char}
    (bracketed : p.Bracketed t left right) {parts before after : List (List Char × List Char)}
    {gap w last : List Char} (separated : p.Separated t parts last)
    (place : parts = before ++ (gap, w) :: after)
    (notBefore : ∀ part ∈ before, part.2 ≠ w) (notAfter : ∀ part ∈ after, part.2 ≠ w) :
    OccursOnce w (assemble parts last) := by
  subst place
  refine ⟨(assemble before gap, assemble after last), ?_, ?_⟩
  · simp only [assemble_append, assemble_cons, assemble_last before gap, List.append_assoc]
  · intro ⟨pre, post⟩ text
    obtain ⟨before', gap', after', same, rfl, rfl⟩ :=
      bracketed.occurrence_assemble t separated (separated.word (gap, w) (by simp)) text
    rcases List.append_eq_append_iff.mp same with ⟨x, rfl, tail⟩ | ⟨x, rfl, tail⟩
    · cases x with
      | nil =>
          obtain ⟨⟨rfl, -⟩, rfl⟩ : (gap = gap' ∧ w = w) ∧ after = after' := by simpa using tail
          simp
      | cons part x =>
          obtain ⟨-, rfl⟩ := List.cons.inj tail
          exact absurd rfl (notAfter (gap', w) (by simp))
    · cases x with
      | nil =>
          obtain ⟨⟨rfl, -⟩, rfl⟩ : (gap' = gap ∧ w = w) ∧ after' = after := by simpa using tail
          simp
      | cons part x =>
          obtain ⟨rfl, -⟩ := List.cons.inj tail
          exact absurd rfl (notBefore (gap', w) (by simp))

end Pattern

end RealityAI.Library.Regex
