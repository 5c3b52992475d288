import Mathlib.Data.List.Basic

namespace RealityAI.Library

variable {α β : Type} [DecidableEq β] (key : α → β)

def firsts : List β → List α → List α
  | _, [] => []
  | seen, x :: xs => if key x ∈ seen then firsts seen xs else x :: firsts (key x :: seen) xs

variable {key} {seen : List β} {xs : List α} {x : α}

theorem mem_firsts :
    x ∈ firsts key seen xs ↔ key x ∉ seen ∧ xs.find? (fun y => key y = key x) = some x := by
  induction xs generalizing seen with
  | nil => simp [firsts]
  | cons y ys ih =>
      rw [firsts]
      by_cases same : key y = key x
      · have here : (y :: ys).find? (fun z => key z = key x) = some y :=
          List.find?_cons_of_pos (by simpa using same)
        rw [here, same, Option.some.injEq]
        by_cases known : key x ∈ seen
        · simp [known, ih]
        · rw [if_neg known, List.mem_cons, ih]
          simp [known, eq_comm]
      · have later : (y :: ys).find? (fun z => key z = key x) =
            ys.find? fun z => key z = key x := List.find?_cons_of_neg (by simpa using same)
        rw [later]
        by_cases known : key y ∈ seen
        · rw [if_pos known, ih]
        · have other : x ≠ y := fun equal => same (equal ▸ rfl)
          rw [if_neg known, List.mem_cons, ih, List.mem_cons]
          simp [other, Ne.symm same]

theorem firsts_sublist (seen : List β) (xs : List α) : (firsts key seen xs).Sublist xs := by
  induction xs generalizing seen with
  | nil => exact List.Sublist.refl []
  | cons y ys ih =>
      rw [firsts]
      split
      · exact (ih seen).cons y
      · exact (ih _).cons_cons y

theorem firsts_distinct (seen : List β) (xs : List α) :
    (firsts key seen xs).Pairwise fun x y => key x ≠ key y := by
  induction xs generalizing seen with
  | nil => exact List.Pairwise.nil
  | cons y ys ih =>
      rw [firsts]
      split
      · exact ih seen
      · refine List.pairwise_cons.mpr ⟨fun x mem => ?_, ih _⟩
        have unseen := (mem_firsts.mp mem).1
        exact fun same => unseen (same ▸ List.mem_cons_self)

theorem find?_flatMap_only {γ : Type} [DecidableEq γ] {parts : List γ} {f : γ → List α}
    {p : α → Bool} {n : γ} (others : ∀ part ∈ parts, part ≠ n → (f part).find? p = none) :
    (parts.flatMap f).find? p = if n ∈ parts then (f n).find? p else none := by
  induction parts with
  | nil => rfl
  | cons part parts ih =>
      obtain ⟨here, later⟩ := List.forall_mem_cons.mp others
      rw [List.flatMap_cons, List.find?_append, ih later]
      by_cases same : part = n
      · subst same
        rw [if_pos List.mem_cons_self]
        split
        · exact Option.or_self
        · exact Option.or_none
      · rw [here same, Option.none_or]
        simp [Ne.symm same]

variable (key) in
/-- As many of the first items of each key as are wanted. -/
def leading : List β → List α → List α
  | _, [] => []
  | wanted, x :: xs =>
      if key x ∈ wanted then x :: leading (wanted.erase (key x)) xs else leading wanted xs

variable {wanted : List β}

theorem leading_nil (xs : List α) : leading key [] xs = [] := by
  induction xs with
  | nil => rfl
  | cons x xs ih => rw [leading, if_neg List.not_mem_nil, ih]

theorem leading_filter (wanted : List β) (xs : List α) (k : β) :
    (leading key wanted xs).filter (fun x => key x = k) =
      (xs.filter fun x => key x = k).take (wanted.count k) := by
  induction xs generalizing wanted with
  | nil => simp [leading]
  | cons x xs ih =>
      rw [leading]
      by_cases named : key x = k
      · subst named
        by_cases mem : key x ∈ wanted
        · have count : wanted.count (key x) = (wanted.erase (key x)).count (key x) + 1 := by
            rw [List.count_erase_self]
            have positive := List.count_pos_iff.mpr mem
            omega
          rw [if_pos mem, List.filter_cons_of_pos (by simp), List.filter_cons_of_pos (by simp), ih,
            count, List.take_succ_cons]
        · have none : wanted.count (key x) = 0 := List.count_eq_zero.mpr mem
          simp [mem, ih, none]
      · by_cases mem : key x ∈ wanted
        · simp [mem, named, ih, List.count_erase_of_ne (Ne.symm named)]
        · simp [mem, named, ih]

theorem perm_of_filter_eq (key : α → β) {xs ys : List α}
    (same : ∀ k, xs.filter (fun x => key x = k) = ys.filter fun x => key x = k) : xs.Perm ys := by
  classical
  rw [List.perm_iff_count]
  intro x
  have counted (zs : List α) : zs.count x = (zs.filter fun y => key y = key x).count x :=
    (List.count_filter (by simp)).symm
  rw [counted xs, counted ys, same]

theorem count_keys (xs : List α) (k : β) :
    (xs.map key).count k = (xs.filter fun x => key x = k).length := by
  rw [List.count, List.countP_map, List.countP_eq_length_filter]
  rfl

theorem perm_leading {xs ys : List α}
    (first : ∀ k, ys.filter (fun y => key y = k) <+: xs.filter fun x => key x = k) :
    ys.Perm (leading key (ys.map key) xs) := by
  apply perm_of_filter_eq key
  intro k
  rw [leading_filter, count_keys]
  exact List.prefix_iff_eq_take.mp (first k)

theorem leading_first (wanted : List β) (xs : List α) (k : β) :
    (leading key wanted xs).filter (fun x => key x = k) <+: xs.filter fun x => key x = k := by
  rw [leading_filter]
  exact List.take_prefix _ _

end RealityAI.Library
