import Mathlib.Data.List.Nodup

namespace RealityAI.Library

variable {α β : Type} [DecidableEq β] (key : α → β)

def saveRow (rows : List α) (row : α) : List α := rows.filter (fun r => key r ≠ key row) ++ [row]

def rowOf (rows : List α) (k : β) : Option α := rows.find? fun r => key r = k

variable {key} {rows : List α} {row : α} {k : β}

theorem nodup_saveRow (nodup : (rows.map key).Nodup) : ((saveRow key rows row).map key).Nodup := by
  rw [saveRow, List.map_append, List.nodup_append]
  refine ⟨nodup.sublist ((List.filter_sublist).map key), List.nodup_singleton _, ?_⟩
  intro k old k' new same
  obtain ⟨r, kept, named⟩ := List.mem_map.mp old
  rw [List.map_singleton, List.mem_singleton] at new
  rw [List.mem_filter, decide_eq_true_eq] at kept
  exact kept.2 (named.trans (same.trans new))

theorem rowOf_some (found : rowOf key rows k = some row) : row ∈ rows ∧ key row = k := by
  have hit : decide (key row = k) = true := List.find?_some (p := fun r => decide (key r = k)) found
  exact ⟨List.mem_of_find?_eq_some found, of_decide_eq_true hit⟩

theorem rowOf_eq_iff (nodup : (rows.map key).Nodup) :
    rowOf key rows k = some row ↔ row ∈ rows ∧ key row = k := by
  constructor
  · exact rowOf_some
  · intro ⟨mem, named⟩
    obtain ⟨found, here⟩ : ∃ found, rowOf key rows k = some found := by
      rw [← Option.isSome_iff_exists, rowOf, List.find?_isSome]
      exact ⟨row, mem, decide_eq_true named⟩
    obtain ⟨there, same⟩ := rowOf_some here
    rw [here, List.inj_on_of_nodup_map nodup there mem (same.trans named.symm)]

theorem rowOf_saveRow : rowOf key (saveRow key rows row) k =
    if k = key row then some row else rowOf key rows k := by
  rw [rowOf, saveRow, List.find?_append]
  by_cases here : k = key row
  · have gone : (rows.filter fun r => key r ≠ key row).find? (fun r => key r = k) = none := by
      apply List.find?_eq_none.mpr
      intro r mem hit
      rw [List.mem_filter, decide_eq_true_eq] at mem
      exact mem.2 ((of_decide_eq_true hit).trans here)
    rw [gone]
    simp [here]
  · have kept : (rows.filter fun r => key r ≠ key row).find? (fun r => key r = k) =
        rowOf key rows k := by
      rw [List.find?_filter]
      apply congrArg (List.find? · rows)
      funext r
      by_cases named : key r = k <;> simp [named, here]
    rw [kept]
    simp [here, Ne.symm here]

end RealityAI.Library
