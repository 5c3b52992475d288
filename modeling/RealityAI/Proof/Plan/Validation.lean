import RealityAI.Library.Dependency
import RealityAI.Model.Plan

namespace RealityAI.Proof.Plan
open Relation Library.Dependency Model.Schemas

def needs (steps : List PlanStep) (b : Int) : Finset Int :=
  ((steps.filter fun s => s.stepId = b).flatMap fun s => s.dependsOn).toFinset

structure ValidDag (steps : List PlanStep) : Prop where
  distinct : (steps.map fun s => s.stepId).Nodup
  known : ∀ s ∈ steps, ∀ dep ∈ s.dependsOn, ∃ s' ∈ steps, s'.stepId = dep
  acyclic : Acyclic (needs steps)

def edges (steps : List PlanStep) : List (Int × Int) :=
  steps.flatMap fun s => s.dependsOn.map fun dep => (dep, s.stepId)

section
variable (steps : List PlanStep)

theorem mem_stepIds {steps : List PlanStep} {b : Int} :
    b ∈ stepIds steps ↔ ∃ s ∈ steps, s.stepId = b := by
  simp [stepIds]

theorem mem_needs {a b : Int} :
    a ∈ needs steps b ↔ ∃ s ∈ steps, s.stepId = b ∧ a ∈ s.dependsOn := by
  simp [needs, and_assoc]

theorem mem_edges {a b : Int} : (a, b) ∈ edges steps ↔ a ∈ needs steps b := by
  simp only [edges, List.mem_flatMap, List.mem_map, Prod.mk.injEq, mem_needs]
  constructor
  · rintro ⟨s, mem, dep, dependsOn, rfl, rfl⟩
    exact ⟨s, mem, rfl, dependsOn⟩
  · rintro ⟨s, mem, rfl, dependsOn⟩
    exact ⟨s, mem, a, dependsOn, rfl, rfl⟩

theorem target_mem {a b : Int} (before : a ∈ needs steps b) : b ∈ stepIds steps := by
  obtain ⟨s, mem, same, -⟩ := (mem_needs steps).mp before
  exact mem_stepIds.mpr ⟨s, mem, same⟩

theorem links_eq : links steps = (edges steps).foldl (fun g e => g.add e.1 e.2) .empty := by
  simp only [links, edges, List.foldl_flatMap, List.foldl_map]

theorem foldl_add_adj (es : List (Int × Int)) (g : Links) (a : Int) :
    (es.foldl (fun g e => g.add e.1 e.2) g).adj a =
      g.adj a ++ (es.filter fun e => e.1 = a).map Prod.snd := by
  induction es generalizing g with
  | nil => simp
  | cons e es ih =>
      rw [List.foldl_cons, ih]
      by_cases same : e.1 = a
      · subst same
        simp [Links.add]
      · simp [Links.add, same, Function.update_of_ne (Ne.symm same)]

theorem foldl_add_indeg (es : List (Int × Int)) (g : Links) (b : Int) :
    (es.foldl (fun g e => g.add e.1 e.2) g).indeg b =
      g.indeg b + (es.countP fun e => e.2 = b : Nat) := by
  induction es generalizing g with
  | nil => simp
  | cons e es ih =>
      rw [List.foldl_cons, ih, List.countP_cons]
      by_cases same : e.2 = b
      · subst same
        simp only [Links.add, Function.update_self, decide_true, if_true]
        omega
      · simp [Links.add, same, Function.update_of_ne (Ne.symm same)]

theorem links_adj (a : Int) :
    (links steps).adj a = ((edges steps).filter fun e => e.1 = a).map Prod.snd := by
  rw [links_eq, foldl_add_adj]
  rfl

theorem links_indeg (b : Int) :
    (links steps).indeg b = ((edges steps).countP fun e => e.2 = b : Nat) := by
  rw [links_eq, foldl_add_indeg]
  exact zero_add _

theorem mem_links_adj {a b : Int} : b ∈ (links steps).adj a ↔ a ∈ needs steps b := by
  simp [links_adj, ← mem_edges]

theorem release_indeg (k : Search) (c b : Int) :
    (k.release c).indeg b = k.indeg b - if b = c then 1 else 0 := by
  by_cases same : b = c
  · subst same
    simp [Search.release]
  · simp [Search.release, same]

theorem count_cons_cast (targets : List Int) (c b : Int) :
    ((c :: targets).count b : Int) = targets.count b + if b = c then 1 else 0 := by
  rw [List.count_cons]
  by_cases same : b = c
  · simp [same]
  · simp [same, Ne.symm same]

theorem release_foldl (targets : List Int) (k : Search)
    (enough : ∀ b, (targets.count b : Int) ≤ k.indeg b) :
    (targets.foldl Search.release k).visited = k.visited ∧
    (∀ b, (targets.foldl Search.release k).indeg b = k.indeg b - targets.count b) ∧
    ∃ new, (targets.foldl Search.release k).ready = new ++ k.ready ∧ new.Nodup ∧
      ∀ b, b ∈ new ↔ b ∈ targets ∧ k.indeg b = targets.count b := by
  induction targets generalizing k with
  | nil => simp
  | cons c targets ih =>
      have enough' (b : Int) : (targets.count b : Int) ≤ (k.release c).indeg b := by
        have := enough b
        rw [count_cons_cast] at this
        rw [release_indeg]
        omega
      obtain ⟨visited, indeg, new, ready, nodup, mem⟩ := ih (k.release c) enough'
      rw [List.foldl_cons]
      refine ⟨visited, fun b => ?_, ?_⟩
      · rw [indeg, release_indeg, count_cons_cast]
        omega
      · have last := release_indeg k c c
        have level := enough' c
        simp only [if_true] at last
        by_cases zero : k.indeg c - 1 = 0
        · -- `c` becomes ready here, so it does not occur among the later targets.
          have absent : c ∉ targets := by
            intro later
            have := List.count_pos_iff.mpr later
            omega
          refine ⟨new ++ [c], by rw [ready]; simp [Search.release, zero], ?_, fun b => ?_⟩
          · refine List.nodup_append.mpr ⟨nodup, List.nodup_singleton c, ?_⟩
            intro b inNew _ inC same
            subst same
            obtain rfl := List.mem_singleton.mp inC
            exact absent ((mem b).mp inNew).1
          · rw [List.mem_append, mem, release_indeg, count_cons_cast, List.mem_singleton,
              List.mem_cons]
            by_cases same : b = c
            · subst same
              have := List.count_eq_zero.mpr absent
              simp only [or_true, true_or, true_and, if_true, true_iff]
              omega
            · simp [same]
        · refine ⟨new, by rw [ready]; simp [Search.release, zero], nodup, fun b => ?_⟩
          rw [mem, release_indeg, count_cons_cast, List.mem_cons]
          by_cases same : b = c
          · subst same
            simp only [true_or, true_and, if_true]
            constructor
            · intro ⟨_, down⟩
              omega
            · intro down
              refine ⟨List.count_pos_iff.mp ?_, by omega⟩
              omega
          · simp [same]

structure Visited (k : Search) (done : Finset Int) : Prop where
  inside : done ⊆ stepIds steps
  visited : k.visited = done.card
  grounded : ∀ b ∈ done, Acc (Before (needs steps)) b
  closed : ∀ b ∈ done, needs steps b ⊆ done
  indeg : ∀ b, k.indeg b = ((edges steps).countP fun e => e.2 = b ∧ e.1 ∉ done : Nat)
  nodup : k.ready.Nodup
  ready : ∀ b, b ∈ k.ready ↔ b ∈ stepIds steps ∧ b ∉ done ∧ needs steps b ⊆ done

theorem count_eq_zero_iff (done : Finset Int) (b : Int) :
    ((edges steps).countP fun e => e.2 = b ∧ e.1 ∉ done) = 0 ↔ needs steps b ⊆ done := by
  rw [List.countP_eq_zero]
  constructor
  · intro none a before
    by_contra away
    exact none (a, b) ((mem_edges steps).mpr before) (by simpa using away)
  · intro inside ⟨a, b'⟩ mem pending
    simp only [decide_eq_true_eq] at pending
    obtain ⟨rfl, away⟩ := pending
    exact away (inside ((mem_edges steps).mp mem))

theorem count_insert (es : List (Int × Int)) {done : Finset Int} {sid : Int} (fresh : sid ∉ done)
    (b : Int) :
    (es.countP fun e => e.2 = b ∧ e.1 ∉ done) =
      (es.countP fun e => e.2 = b ∧ e.1 ∉ insert sid done) +
        ((es.filter fun e => e.1 = sid).map Prod.snd).count b := by
  induction es with
  | nil => rfl
  | cons e es ih =>
      obtain ⟨a, c⟩ := e
      rw [List.countP_cons, List.countP_cons, ih]
      by_cases source : a = sid
      · subst source
        by_cases target : c = b <;> simp [target, fresh, Nat.add_assoc]
      · by_cases target : c = b <;> by_cases before : a ∈ done <;>
          simp [source, target, before, Nat.add_right_comm]

/-- Once `sid` is visited, the steps that become ready need it, or were ready before. -/
theorem Visited.ready_insert {k : Search} {done : Finset Int} (inv : Visited steps k done) {sid : Int}
    {ready : List Int} (next : k.ready = sid :: ready) (b : Int) :
    (sid ∈ needs steps b ∧ needs steps b ⊆ insert sid done) ∨ b ∈ ready ↔
      b ∈ stepIds steps ∧ b ∉ insert sid done ∧ needs steps b ⊆ insert sid done := by
  obtain ⟨idMem, fresh, sources⟩ := (inv.ready sid).mp (by simp [next])
  obtain ⟨notLater, -⟩ := List.nodup_cons.mp (next ▸ inv.nodup)
  rw [Finset.mem_insert, not_or]
  constructor
  · rintro (⟨own, inside⟩ | later)
    · refine ⟨target_mem steps own, ⟨?_, fun mem => fresh (inv.closed b mem own)⟩, inside⟩
      intro same
      subst same
      exact fresh (sources own)
    · obtain ⟨idB, freshB, early⟩ := (inv.ready b).mp (by simp [next, later])
      refine ⟨idB, ⟨?_, freshB⟩, early.trans (Finset.subset_insert sid done)⟩
      intro same
      subst same
      exact notLater later
  · intro ⟨idB, freshB, inside⟩
    by_cases own : sid ∈ needs steps b
    · exact Or.inl ⟨own, inside⟩
    · have early : needs steps b ⊆ done := (Finset.subset_insert_iff_of_notMem own).mp inside
      have before : b ∈ k.ready := (inv.ready b).mpr ⟨idB, freshB.2, early⟩
      rw [next] at before
      exact Or.inr ((List.mem_cons.mp before).resolve_left freshB.1)

theorem Visited.visit {k : Search} {done : Finset Int} (inv : Visited steps k done) {sid : Int}
    {ready : List Int} (next : k.ready = sid :: ready) :
    Visited steps (k.visit (links steps).adj) (insert sid done) := by
  obtain ⟨idMem, fresh, sources⟩ := (inv.ready sid).mp (by simp [next])
  obtain ⟨-, nodup⟩ := List.nodup_cons.mp (next ▸ inv.nodup)
  have pending (b : Int) : k.indeg b =
      ((edges steps).countP fun e => e.2 = b ∧ e.1 ∉ insert sid done : Nat) +
        (((links steps).adj sid).count b : Nat) := by
    rw [inv.indeg, count_insert (edges steps) fresh, links_adj]
    exact Int.natCast_add _ _
  have enough (b : Int) : (((links steps).adj sid).count b : Int) ≤ k.indeg b := by
    rw [pending]
    omega
  obtain ⟨visited, indeg, new, readyEq, newNodup, newMem⟩ :=
    release_foldl ((links steps).adj sid) { k with ready, visited := k.visited + 1 } enough
  have newIff (b : Int) :
      b ∈ new ↔ sid ∈ needs steps b ∧ needs steps b ⊆ insert sid done := by
    rw [newMem, mem_links_adj, ← count_eq_zero_iff, pending]
    apply and_congr_right
    intro _
    omega
  have visitEq : k.visit (links steps).adj = ((links steps).adj sid).foldl Search.release
      { k with ready, visited := k.visited + 1 } := by
    rw [Search.visit, next]
  rw [visitEq]
  refine ⟨?_, ?_, ?_, ?_, fun b => ?_, ?_, fun b => ?_⟩
  · exact Finset.insert_subset idMem inv.inside
  · rw [visited, Finset.card_insert_of_notMem fresh]
    exact congrArg (· + 1) inv.visited
  · intro b mem
    rcases Finset.mem_insert.mp mem with rfl | mem
    · exact ⟨b, fun a before => inv.grounded a (sources before)⟩
    · exact inv.grounded b mem
  · intro b mem
    rcases Finset.mem_insert.mp mem with rfl | mem
    · exact sources.trans (Finset.subset_insert b done)
    · exact (inv.closed b mem).trans (Finset.subset_insert sid done)
  · rw [indeg]
    show k.indeg b - _ = _
    rw [pending]
    omega
  · rw [readyEq]
    refine List.nodup_append.mpr ⟨newNodup, nodup, ?_⟩
    intro b inNew _ inReady same
    subst same
    have early := ((inv.ready b).mp (by simp [next, inReady])).2.2
    exact fresh (early ((newIff b).mp inNew).1)
  · rw [readyEq, List.mem_append, newIff]
    exact inv.ready_insert steps next b

theorem loop_finished (adj : Int → List Int) (n : Nat) {k : Search} (finished : k.ready = []) :
    Search.loop adj n k = k := by
  induction n with
  | zero => rfl
  | succ n ih =>
      have still : k.visit adj = k := by rw [Search.visit, finished]
      rw [Search.loop, still, ih]

theorem Visited.loop (n : Nat) {k : Search} {done : Finset Int} (inv : Visited steps k done) :
    ∃ final, Visited steps (Search.loop (links steps).adj n k) final ∧
      ((Search.loop (links steps).adj n k).ready = [] ∨ final.card = done.card + n) := by
  induction n generalizing k done with
  | zero => exact ⟨done, inv, Or.inr rfl⟩
  | succ n ih =>
      cases next : k.ready with
      | nil =>
          rw [loop_finished _ _ next]
          exact ⟨done, inv, Or.inl next⟩
      | cons sid ready =>
          have fresh := ((inv.ready sid).mp (by simp [next])).2.1
          obtain ⟨final, inv', stop⟩ := ih (inv.visit steps next)
          refine ⟨final, inv', stop.imp_right fun card => ?_⟩
          rw [card, Finset.card_insert_of_notMem fresh]
          omega

theorem visited_start (order : SetOrder) :
    Visited steps
      ⟨(links steps).indeg,
        ((order.list (stepIds steps)).filter fun sid => (links steps).indeg sid = 0).reverse, 0⟩ ∅ where
  inside := Finset.empty_subset _
  visited := rfl
  grounded b mem := absurd mem (Finset.notMem_empty b)
  closed b mem := absurd mem (Finset.notMem_empty b)
  indeg b := by simp [links_indeg]
  nodup := List.nodup_reverse.mpr ((order.nodup _).filter _)
  ready b := by
    have roots := count_eq_zero_iff steps ∅ b
    simp only [Finset.notMem_empty, not_false_eq_true, and_true] at roots
    rw [List.mem_reverse, List.mem_filter, order.mem, decide_eq_true_eq, links_indeg, ← roots]
    simp

theorem search_visited (order : SetOrder) :
    ∃ done, Visited steps (search order steps) done ∧ (search order steps).ready = [] := by
  obtain ⟨done, inv, stop⟩ := (visited_start steps order).loop steps (stepIds steps).card
  refine ⟨done, inv, stop.elim id fun card => ?_⟩
  have all : done = stepIds steps :=
    Finset.eq_of_subset_of_card_le inv.inside (by simp [card])
  rw [List.eq_nil_iff_forall_not_mem]
  intro b mem
  obtain ⟨idMem, fresh, -⟩ := (inv.ready b).mp mem
  exact fresh (all ▸ idMem)

theorem visited_all_iff (order : SetOrder)
    (known : ∀ a b, Before (needs steps) a b → a ∈ stepIds steps) :
    (search order steps).visited = (stepIds steps).card ↔ Acyclic (needs steps) := by
  obtain ⟨done, inv, finished⟩ := search_visited steps order
  rw [inv.visited]
  constructor
  · intro all
    have same : done = stepIds steps := Finset.eq_of_subset_of_card_le inv.inside all.ge
    apply acyclic_of_wellFounded
    refine ⟨fun b => ⟨b, fun a before => inv.grounded a ?_⟩⟩
    exact same ▸ known a b before
  · intro acyclic
    have wf := wellFounded_of_acyclic (needs steps) known acyclic
    have reached : ∀ b ∈ stepIds steps, b ∈ done := by
      intro b
      induction b using wf.induction with
      | _ b ih =>
          intro idMem
          by_contra fresh
          have ready : b ∈ (search order steps).ready :=
            (inv.ready b).mpr ⟨idMem, fresh, fun a before => ih a before (known a b before)⟩
          simp [finished] at ready
    rw [Finset.Subset.antisymm inv.inside reached]

theorem distinct_iff :
    (stepIds steps).card = steps.length ↔ (steps.map fun s => s.stepId).Nodup := by
  have same : (steps.map fun s => s.stepId).length = steps.length := List.length_map _
  rw [stepIds, List.card_toFinset, ← same]
  constructor
  · intro same
    exact List.dedup_eq_self.mp ((List.dedup_sublist _).eq_of_length same)
  · intro nodup
    rw [nodup.dedup]

theorem missingDependency_eq_none_iff :
    missingDependency (stepIds steps) steps = none ↔
      ∀ s ∈ steps, ∀ dep ∈ s.dependsOn, dep ∈ stepIds steps := by
  simp [missingDependency, List.findSome?_eq_none_iff, List.find?_eq_none]

theorem validateDag_ok_iff (order : SetOrder) :
    validateDag order steps = .ok () ↔ ValidDag steps := by
  have known (all : ∀ s ∈ steps, ∀ dep ∈ s.dependsOn, dep ∈ stepIds steps) (a b : Int)
      (before : Before (needs steps) a b) : a ∈ stepIds steps := by
    obtain ⟨s, mem, -, dependsOn⟩ := (mem_needs steps).mp before
    exact all s mem a dependsOn
  have listed : (∀ s ∈ steps, ∀ dep ∈ s.dependsOn, ∃ s' ∈ steps, s'.stepId = dep) ↔
      ∀ s ∈ steps, ∀ dep ∈ s.dependsOn, dep ∈ stepIds steps := by
    simp only [mem_stepIds]
  constructor
  · intro ok
    rw [validateDag] at ok
    split at ok
    · cases ok
    · rename_i distinct
      split at ok
      · cases ok
      · rename_i absent
        have all := (missingDependency_eq_none_iff steps).mp absent
        split at ok
        · cases ok
        · rename_i visited
          exact ⟨(distinct_iff steps).mp (not_not.mp distinct), listed.mpr all,
            (visited_all_iff steps order (known all)).mp (not_not.mp visited)⟩
  · intro ⟨distinct, all, acyclic⟩
    rw [listed] at all
    simp only [validateDag, (distinct_iff steps).mpr distinct,
      (missingDependency_eq_none_iff steps).mpr all,
      (visited_all_iff steps order (known all)).mpr acyclic, ne_eq, not_true_eq_false, if_false]

theorem construct_ok_iff (order : SetOrder) (reasoning : String) :
    (∃ p, Plan.construct order steps reasoning = .ok p ∧ p.steps = steps) ↔ ValidDag steps := by
  rw [← validateDag_ok_iff steps order, Plan.construct]
  split
  · rename_i valid
    exact ⟨fun _ => valid, fun _ => ⟨_, rfl, rfl⟩⟩
  · rename_i text invalid
    simp [invalid]

end

end RealityAI.Proof.Plan
