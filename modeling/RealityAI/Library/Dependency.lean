import Mathlib.Data.Finset.Lattice.Fold
import Mathlib.Data.Set.Finite.Basic
import Mathlib.Order.WellFoundedSet

/-!
# Finite dependency relations

`needs b` is the set of nodes that must come before `b`. Without a cycle every node has a depth: 0
when it needs nothing, otherwise one more than the deepest node it needs.
-/

namespace RealityAI.Library.Dependency
open Relation

variable {ι : Type} (needs : ι → Finset ι)

def Before (a b : ι) : Prop := a ∈ needs b

def Acyclic : Prop := ∀ a, ¬ TransGen (Before needs) a a

theorem acyclic_of_wellFounded (wf : WellFounded (Before needs)) : Acyclic needs :=
  fun a cycle => wf.transGen.irrefl.irrefl a cycle

theorem acyclic_of_lt [Preorder ι] {needs : ι → Finset ι} (lt : ∀ a b, Before needs a b → a < b) :
    Acyclic needs := by
  intro a cycle
  have below (b : ι) (path : TransGen (Before needs) a b) : a < b := by
    induction path with
    | single before => exact lt _ _ before
    | tail _ before ih => exact ih.trans (lt _ _ before)
  exact lt_irrefl a (below a cycle)

theorem wellFounded_of_acyclic {nodes : Finset ι} (closed : ∀ a b, Before needs a b → a ∈ nodes)
    (acyclic : Acyclic needs) : WellFounded (Before needs) := by
  have : IsStrictOrder ι (TransGen (Before needs)) :=
    { irrefl := acyclic, trans := fun _ _ _ => TransGen.trans }
  have inside : (nodes : Set ι).WellFoundedOn (TransGen (Before needs)) :=
    nodes.finite_toSet.wellFoundedOn
  rw [Set.wellFoundedOn_iff] at inside
  have reachable : ∀ b ∈ nodes, Acc (Before needs) b := by
    intro b
    induction b using inside.induction with
    | _ b ih =>
        intro mem
        exact ⟨b, fun a before => ih a ⟨.single before, closed a b before, mem⟩ (closed a b before)⟩
  exact ⟨fun b => ⟨b, fun a before => reachable a (closed a b before)⟩⟩

section
variable {needs} (wf : WellFounded (Before needs))

noncomputable def depth : ι → Nat :=
  wf.fix fun b rec => (needs b).attach.sup fun a => rec a.1 a.2 + 1

theorem depth_eq (b : ι) : depth wf b = (needs b).sup fun a => depth wf a + 1 := by
  rw [depth, wf.fix_eq]
  exact (needs b).sup_attach fun a => depth wf a + 1

theorem depth_le_iff {b : ι} {n : Nat} : depth wf b ≤ n ↔ ∀ a ∈ needs b, depth wf a < n := by
  rw [depth_eq wf b, Finset.sup_le_iff]
  rfl

theorem exists_depth_eq {b : ι} {n : Nat} (le : n ≤ depth wf b) :
    ∃ a, ReflTransGen (Before needs) a b ∧ depth wf a = n := by
  induction b using wf.induction with
  | _ b ih =>
      rcases le.eq_or_lt with same | lt
      · exact ⟨b, .refl, same.symm⟩
      · have deeper : ¬ depth wf b ≤ n := Nat.not_le.mpr lt
        simp only [depth_le_iff, not_forall, Nat.not_lt] at deeper
        obtain ⟨a, before, le⟩ := deeper
        obtain ⟨c, path, found⟩ := ih a before le
        exact ⟨c, path.tail before, found⟩

end

end RealityAI.Library.Dependency
