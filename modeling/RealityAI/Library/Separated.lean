import Mathlib.Data.List.DropRight

/-!
# Texts of separated fields

Splitting as Java does: empty fields at the end are dropped, unless nothing is split at all.
-/

namespace RealityAI.Library

variable {α : Type} [DecidableEq α]

def splitFields (sep : α) (text : List α) : List (List α) :=
  if sep ∈ text then (text.splitOn sep).rdropWhile List.isEmpty else [text]

variable {sep : α} {text field : List α} {fields : List (List α)}

theorem notMem_of_mem_splitOn (mem : field ∈ text.splitOn sep) : sep ∉ field := by
  induction text generalizing field with
  | nil =>
      rw [List.splitOn_nil, List.mem_singleton] at mem
      rw [mem]
      exact List.not_mem_nil
  | cons c text ih =>
      rw [List.splitOn_cons_eq_if_modifyHead] at mem
      split at mem
      · rcases List.mem_cons.mp mem with empty | later
        · rw [empty]
          exact List.not_mem_nil
        · exact ih later
      · rename_i other
        obtain ⟨first, rest, pieces⟩ := List.exists_cons_of_ne_nil (List.splitOn_ne_nil sep text)
        rw [pieces] at mem ih
        rcases List.mem_cons.mp mem with first' | later
        · rw [first', List.mem_cons, not_or]
          exact ⟨fun same => other (beq_iff_eq.mpr same.symm), ih List.mem_cons_self⟩
        · exact ih (List.mem_cons_of_mem _ later)

theorem notMem_of_mem_splitFields (mem : field ∈ splitFields sep text) : sep ∉ field := by
  unfold splitFields at mem
  split at mem
  · exact notMem_of_mem_splitOn ((List.rdropWhile_prefix _ _).subset mem)
  · rename_i none
    rwa [List.mem_singleton.mp mem]

theorem splitFields_ends (nonempty : text ≠ []) :
    (splitFields sep text).rdropWhile List.isEmpty = splitFields sep text := by
  unfold splitFields
  split
  · exact List.rdropWhile_idempotent _ _
  · simp [nonempty]

/-- Joined fields are split into the same fields if none contains the separator and the last one is
not empty, and only then. -/
theorem splitFields_intercalate_iff (nonempty : [sep].intercalate fields ≠ []) :
    splitFields sep ([sep].intercalate fields) = fields ↔
      (∀ field ∈ fields, sep ∉ field) ∧ fields.getLast? ≠ some [] := by
  have some_field : fields ≠ [] := by
    intro none
    rw [none] at nonempty
    exact nonempty rfl
  have ends : fields.rdropWhile List.isEmpty = fields ↔ fields.getLast? ≠ some [] := by
    rw [List.rdropWhile_eq_self_iff, List.getLast?_eq_some_getLast some_field]
    simp [some_field]
  rw [← ends]
  constructor
  · intro same
    constructor
    · intro field mem
      rw [← same] at mem
      exact notMem_of_mem_splitFields mem
    · have ended : (splitFields sep ([sep].intercalate fields)).rdropWhile List.isEmpty =
          splitFields sep ([sep].intercalate fields) := splitFields_ends nonempty
      rwa [same] at ended
  · intro ⟨apart, last⟩
    have pieces := List.splitOn_intercalate sep apart some_field
    unfold splitFields
    split
    · rw [pieces, last]
    · rename_i whole
      rw [← List.splitOn_eq_singleton whole, pieces]

theorem splitOn_inj {text text' : List α} : text.splitOn sep = text'.splitOn sep ↔ text = text' := by
  constructor
  · intro same
    have joined := congrArg [sep].intercalate same
    rwa [List.intercalate_splitOn, List.intercalate_splitOn] at joined
  · intro same
    rw [same]

theorem splitOn_intercalate_eq (some_field : fields ≠ []) :
    ([sep].intercalate fields).splitOn sep = fields.flatMap fun field => field.splitOn sep := by
  induction fields with
  | nil => exact absurd rfl some_field
  | cons field fields ih =>
      cases fields with
      | nil => simp
      | cons next fields =>
          rw [List.intercalate_cons_cons, List.flatMap_cons, ← ih (by simp), List.append_assoc,
            List.singleton_append, List.splitOn_append_cons_self]

/-- Two joins are one text exactly if their fields are made of the same pieces. -/
theorem intercalate_eq_iff {fields' : List (List α)} (some_field : fields ≠ [])
    (some_field' : fields' ≠ []) :
    [sep].intercalate fields = [sep].intercalate fields' ↔
      (fields.flatMap fun field => field.splitOn sep) =
        fields'.flatMap fun field => field.splitOn sep := by
  have pieces : ([sep].intercalate fields).splitOn sep = ([sep].intercalate fields').splitOn sep ↔
      [sep].intercalate fields = [sep].intercalate fields' := splitOn_inj
  rw [← pieces, splitOn_intercalate_eq some_field, splitOn_intercalate_eq some_field']

end RealityAI.Library
