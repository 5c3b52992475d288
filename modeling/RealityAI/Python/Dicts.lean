import RealityAI.Python.Builtins
import Mathlib.Data.Rat.Init
import Mathlib.Algebra.Order.Ring.Rat

/-!
# Dicts that are filled entry by entry, and `sorted`
-/

namespace RealityAI.Python

section
variable {κ α : Type} [DecidableEq κ]

theorem mem_keys_upsert {key k : κ} {f : Option α → α} {l : List (κ × α)} :
    k ∈ (upsert key f l).map Prod.fst ↔ k = key ∨ k ∈ l.map Prod.fst := by
  induction l with
  | nil => simp [upsert]
  | cons entry l ih =>
      obtain ⟨other, a⟩ := entry
      by_cases same : other = key
      · simp [upsert, same]
      · rw [upsert, if_neg same, List.map_cons, List.map_cons, List.mem_cons, List.mem_cons, ih]
        tauto

theorem nodup_keys_upsert {key : κ} {f : Option α → α} {l : List (κ × α)}
    (nodup : (l.map Prod.fst).Nodup) : ((upsert key f l).map Prod.fst).Nodup := by
  induction l with
  | nil => simp [upsert]
  | cons entry l ih =>
      obtain ⟨other, a⟩ := entry
      by_cases same : other = key
      · simpa [upsert, same] using nodup
      · obtain ⟨new, rest⟩ := List.nodup_cons.mp nodup
        rw [upsert, if_neg same, List.map_cons, List.nodup_cons]
        refine ⟨?_, ih rest⟩
        rw [mem_keys_upsert]
        exact not_or.mpr ⟨same, new⟩

theorem lookup_upsert {key k : κ} {f : Option α → α} {l : List (κ × α)} :
    (upsert key f l).lookup k = if k = key then some (f (l.lookup key)) else l.lookup k := by
  induction l with
  | nil =>
      by_cases here : k = key
      · simp [upsert, here]
      · simp [upsert, here, beq_eq_false_iff_ne.mpr here, List.lookup_cons]
  | cons entry l ih =>
      obtain ⟨other, a⟩ := entry
      by_cases same : other = key
      · subst same
        by_cases here : k = other
        · simp [upsert, here]
        · simp [upsert, here, beq_eq_false_iff_ne.mpr here, List.lookup_cons]
      · have missed : (key == other) = false := beq_eq_false_iff_ne.mpr (Ne.symm same)
        rw [upsert, if_neg same, List.lookup_cons, List.lookup_cons, List.lookup_cons, ih, missed]
        by_cases here : k = other
        · subst here
          simp [same]
        · simp [beq_eq_false_iff_ne.mpr here]

theorem lookup_eq_iff {l : List (κ × α)} (nodup : (l.map Prod.fst).Nodup) {k : κ} {a : α} :
    l.lookup k = some a ↔ (k, a) ∈ l := by
  induction l with
  | nil => simp
  | cons entry l ih =>
      obtain ⟨other, b⟩ := entry
      obtain ⟨new, rest⟩ := List.nodup_cons.mp nodup
      rw [List.lookup_cons, List.mem_cons]
      by_cases here : k = other
      · subst here
        have later : (k, a) ∉ l := fun mem => new (List.mem_map.mpr ⟨(k, a), mem, rfl⟩)
        simp [later, eq_comm]
      · rw [beq_eq_false_iff_ne.mpr here]
        simp [here, ih rest]

theorem map_upsert {α' : Type} {g : α → α'} {key : κ} {f : Option α → α} {f' : Option α' → α'}
    (commutes : ∀ old, g (f old) = f' (old.map g)) (l : List (κ × α)) :
    (upsert key f l).map (Prod.map id g) = upsert key f' (l.map (Prod.map id g)) := by
  induction l with
  | nil => simp [upsert, commutes]
  | cons entry l ih =>
      obtain ⟨other, a⟩ := entry
      by_cases same : other = key
      · simp [upsert, same, commutes]
      · simp [upsert, same, ih]

section
variable {β : Type} (key : β → κ) (update : β → Option α → α)

def fill (entries : List β) (l : List (κ × α)) : List (κ × α) :=
  entries.foldl (fun l x => upsert (key x) (update x) l) l

theorem mem_keys_fill (entries : List β) (l : List (κ × α)) (k : κ) :
    k ∈ (fill key update entries l).map Prod.fst ↔ k ∈ l.map Prod.fst ∨ k ∈ entries.map key := by
  induction entries generalizing l with
  | nil => simp [fill]
  | cons x entries ih =>
      rw [fill, List.foldl_cons]
      refine (ih _).trans ?_
      rw [mem_keys_upsert, List.map_cons, List.mem_cons]
      tauto

theorem nodup_keys_fill (entries : List β) {l : List (κ × α)} (nodup : (l.map Prod.fst).Nodup) :
    ((fill key update entries l).map Prod.fst).Nodup := by
  induction entries generalizing l with
  | nil => exact nodup
  | cons x entries ih => exact ih (nodup_keys_upsert nodup)

theorem lookup_fill (entries : List β) (l : List (κ × α)) (k : κ) :
    (fill key update entries l).lookup k =
      (entries.filter fun x => key x = k).foldl (fun old x => some (update x old)) (l.lookup k) := by
  induction entries generalizing l with
  | nil => rfl
  | cons x entries ih =>
      rw [fill, List.foldl_cons]
      refine (ih _).trans ?_
      rw [lookup_upsert]
      by_cases here : key x = k
      · subst here
        simp
      · rw [if_neg (Ne.symm here), List.filter_cons_of_neg (by simpa using here)]

end

end

/-! ## `sorted` -/

section
variable {α : Type} (key : α → Rat) (xs : List α)

theorem sortedDown_perm : (sortedDown key xs).Perm xs := List.perm_insertionSort _ _

theorem sortedDown_pairwise : (sortedDown key xs).Pairwise fun a b => key b ≤ key a := by
  have : IsTrans α fun a b => key b ≤ key a := ⟨fun _ _ _ first second => second.trans first⟩
  have : Std.Total fun a b : α => key b ≤ key a := ⟨fun a b => le_total (key b) (key a)⟩
  exact List.pairwise_insertionSort _ _

theorem sortedDown_map {α' : Type} (g : α' → α) (ys : List α') :
    sortedDown key (ys.map g) = (sortedDown (fun y => key (g y)) ys).map g :=
  (List.map_insertionSort _ _ g ys fun _ _ _ _ => Iff.rfl).symm

end

end RealityAI.Python
