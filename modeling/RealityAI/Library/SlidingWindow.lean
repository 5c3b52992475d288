import Mathlib.Algebra.Order.Group.Defs
import Mathlib.Data.List.Basic
import Mathlib.Data.List.Induction
import Mathlib.Order.Defs.LinearOrder

/-!
# Sliding windows over times

A limiter that admits an event only while fewer than `limit` events stand in the window before it
lets at most `limit` events into any window, though it forgets what has left the window.
-/

namespace RealityAI.Library

variable {α : Type} [AddCommGroup α] [LinearOrder α] [IsOrderedAddMonoid α]

def recent (window now : α) (times : List α) : List α := times.filter fun t => now - window < t

def inWindow (window start : α) (times : List α) : List α :=
  times.filter fun t => start < t ∧ t ≤ start + window

/-- Fewer than `limit` earlier events count against any event. -/
def Spaced (limit : Nat) (window : α) (times : List α) : Prop :=
  ∀ earlier t, earlier ++ [t] <+: times → (recent window t earlier).length < limit

variable {limit : Nat} {window : α} {times : List α}

omit [IsOrderedAddMonoid α] in
theorem spaced_append {t : α} (spaced : Spaced limit window times)
    (room : (recent window t times).length < limit) : Spaced limit window (times ++ [t]) := by
  intro earlier t' start
  rcases List.prefix_concat_iff.mp start with whole | before
  · obtain ⟨rfl, same⟩ := List.append_inj' whole rfl
    cases same
    exact room
  · exact spaced earlier t' before

omit [IsOrderedAddMonoid α] in
theorem spaced_zero (spaced : Spaced 0 window times) : times = [] := by
  cases times with
  | nil => rfl
  | cons t later => exact absurd (spaced [] t ⟨later, rfl⟩) (Nat.not_lt_zero _)

theorem inWindow_le_recent {start t : α} (within : t ≤ start + window) (times : List α) :
    (inWindow window start times).length ≤ (recent window t times).length := by
  apply List.Sublist.length_le
  apply List.monotone_filter_right
  intro t' counted
  have after : start < t' := (of_decide_eq_true counted).1
  exact decide_eq_true (lt_of_le_of_lt (sub_le_iff_le_add.mpr within) after)

theorem spaced_inWindow (spaced : Spaced limit window times) (start : α) :
    (inWindow window start times).length ≤ limit := by
  induction times using List.reverseRecOn with
  | nil => exact Nat.zero_le limit
  | append_singleton earlier t ih =>
      have before : Spaced limit window earlier :=
        fun earlier' t' initial => spaced earlier' t' (initial.trans (List.prefix_append _ _))
      unfold inWindow
      rw [List.filter_append, List.length_append]
      by_cases within : start < t ∧ t ≤ start + window
      · have room := spaced earlier t List.prefix_rfl
        have fewer := inWindow_le_recent within.2 earlier
        unfold inWindow at fewer
        simp only [within, and_self, decide_true, List.filter_cons_of_pos, List.filter_nil,
          List.length_singleton]
        omega
      · have none : [t].filter (fun t => start < t ∧ t ≤ start + window) = [] := by simp [within]
        rw [none]
        exact ih before

theorem recent_recent {now later : α} (order : now ≤ later) (times : List α) :
    recent window later (recent window now times) = recent window later times := by
  unfold recent
  rw [List.filter_filter]
  apply List.filter_congr
  intro t _
  rw [Bool.and_eq_left_iff_imp]
  intro counted
  exact decide_eq_true
    (lt_of_le_of_lt (sub_le_sub_right order window) (of_decide_eq_true counted))

omit [IsOrderedAddMonoid α] in
theorem recent_append (now : α) (times later : List α) :
    recent window now (times ++ later) = recent window now times ++ recent window now later :=
  List.filter_append ..

section
variable {β : Type} [AddCommGroup β] [LinearOrder β] {f : α → β}
  (order : ∀ a b, f a < f b ↔ a < b) (sub : ∀ a b, f (a - b) = f a - f b)
include order sub

omit [IsOrderedAddMonoid α] in
theorem recent_map (now : α) (times : List α) :
    recent (f window) (f now) (times.map f) = (recent window now times).map f := by
  unfold recent
  rw [List.filter_map]
  congr 1
  apply List.filter_congr
  intro t _
  rw [Function.comp_apply, ← sub, decide_eq_decide]
  exact order _ _

omit [IsOrderedAddMonoid α] in
theorem spaced_map (spaced : Spaced limit window times) : Spaced limit (f window) (times.map f) := by
  intro earlier t start
  obtain ⟨whole, before, same⟩ := List.prefix_map_iff.mp start
  obtain ⟨earlier', last, rfl, rfl, single⟩ := List.map_eq_append_iff.mp same.symm
  obtain ⟨t', rfl, rfl⟩ := List.map_eq_singleton_iff.mp single
  rw [recent_map order sub, List.length_map]
  exact spaced earlier' t' before

end

end RealityAI.Library
