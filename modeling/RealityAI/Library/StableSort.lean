import Mathlib.Data.List.Sort

namespace RealityAI.Library

section
variable {α : Type} {r q : α → α → Prop} [DecidableRel r] {a : α} {l : List α}

theorem pairwise_orderedInsert_iff [IsTrans α r] (sorted : l.Pairwise r) :
    (l.orderedInsert r a).Pairwise q ↔
      (∀ b ∈ l, if r a b then q a b else q b a) ∧ l.Pairwise q := by
  induction l with
  | nil => simp
  | cons b l ih =>
      obtain ⟨least, sorted'⟩ := List.pairwise_cons.mp sorted
      by_cases first : r a b
      · have all : ∀ c ∈ b :: l, r a c := by
          intro c mem
          rcases List.mem_cons.mp mem with rfl | mem
          · exact first
          · exact IsTrans.trans a b c first (least c mem)
        rw [List.orderedInsert_cons_of_le r l first, List.pairwise_cons]
        apply and_congr_left'
        apply forall₂_congr
        intro c mem
        rw [if_pos (all c mem)]
      · rw [List.orderedInsert_of_not_le r l first, List.pairwise_cons, List.pairwise_cons, ih sorted',
          List.forall_mem_cons, if_neg first]
        have members : (∀ c ∈ l.orderedInsert r a, q b c) ↔ q b a ∧ ∀ c ∈ l, q b c := by
          simp
        rw [members]
        tauto

/-- A sorted list is in the order `q` if and only if any two of its items that the sort keeps in
place are, and any two that it exchanges are the other way round. -/
theorem pairwise_insertionSort_iff [IsTrans α r] [Std.Total r] :
    (l.insertionSort r).Pairwise q ↔ l.Pairwise fun a b => if r a b then q a b else q b a := by
  induction l with
  | nil => simp
  | cons a l ih =>
      rw [List.insertionSort_cons, pairwise_orderedInsert_iff (List.pairwise_insertionSort r l), ih,
        List.pairwise_cons]
      apply and_congr_left'
      simp only [List.mem_insertionSort]

theorem filter_insertionSort {p : α → Bool}
    (tied : ∀ a ∈ l, ∀ b ∈ l, p a = true → p b = true → r a b) :
    (l.insertionSort r).filter p = l.filter p := by
  have tied : (l.filter p).Pairwise r := by
    apply List.pairwise_of_forall_mem_list
    intro a mem b mem'
    obtain ⟨listed, here⟩ := List.mem_filter.mp mem
    obtain ⟨listed', here'⟩ := List.mem_filter.mp mem'
    exact tied a listed b listed' here here'
  have kept := (List.sublist_insertionSort tied List.filter_sublist).filter p
  simp only [List.filter_filter, Bool.and_self] at kept
  have length := ((List.perm_insertionSort r l).filter p).length_eq
  exact (kept.eq_of_length length.symm).symm

end

end RealityAI.Library
