import RealityAI.Library.Effect
import Mathlib.Data.Finset.Card
import Mathlib.Data.Finset.Dedup
import Mathlib.Data.List.Perm.Basic

/-!
# Graphs that run in supersteps

In a superstep all nodes that are due run on the same state; afterwards their updates are merged
into it, in any order. An edge from the start makes its target due in the first superstep, an edge
with one source after that source has run, a join once all its sources have run. A failing node ends
the run. A node that several edges make due at once would run once for each of them.
-/

namespace RealityAI.Library.Superstep

inductive Edge (ν : Type) where
  | start (target : ν)
  | single (source target : ν)
  | join (sources : List ν) (target : ν)
  | finish (source : ν)
  deriving DecidableEq, Repr

structure Graph (ν σ υ ε ω : Type) where
  nodes : List (ν × (σ → Eff ε ω υ))
  edges : List (Edge ν)
  merge : σ → υ → σ

abbrev Arrivals (ν : Type) := List ν × ν → Finset ν

structure Config (ν σ : Type) where
  state : σ
  arrivals : Arrivals ν
  due : List ν

structure Task (ν σ υ ε ω : Type) where
  name : ν
  input : σ
  result : Eff ε ω υ

inductive Outcome (σ ε : Type) where
  | finished (state : σ)
  | raised (e : ε)
  | cut
  deriving DecidableEq, Repr

structure MergeOrder (υ : Type) where
  arrange : Nat → List υ → List υ
  perm : ∀ k us, (arrange k us).Perm us

variable {ν σ υ ε ω ι : Type}

theorem MergeOrder.arrange_map (order : MergeOrder υ) (k : Nat) (nodes : List ι) (f : ι → υ) :
    ∃ nodes' : List ι, order.arrange k (nodes.map f) = nodes'.map f ∧ nodes'.Perm nodes := by
  have same : List.Forall₂ (fun u b => u = f b) (nodes.map f) nodes := by
    rw [List.forall₂_map_left_iff, List.forall₂_same]
    exact fun _ _ => rfl
  obtain ⟨nodes', arranged, perm⟩ := List.perm_comp_forall₂ (order.perm k _) same
  refine ⟨nodes', ?_, perm⟩
  rw [← List.forall₂_eq_eq_eq, List.forall₂_map_right_iff]
  exact arranged

section
variable [DecidableEq ν]

def arrived (arrivals : Arrivals ν) (ran : List ν) (sources : List ν) (target : ν) : Finset ν :=
  arrivals (sources, target) ∪ (sources.filter fun a => a ∈ ran).toFinset

namespace Edge

def opens : Edge ν → List ν
  | .start b => [b]
  | _ => []

def fires (arrivals : Arrivals ν) (ran : List ν) : Edge ν → List ν
  | .start _ => []
  | .single a b => if a ∈ ran then [b] else []
  | .join as b => if arrived arrivals ran as b = as.toFinset then [b] else []
  | .finish _ => []

def leads : Edge ν → Bool
  | .finish _ => false
  | _ => true

end Edge

def arrive (arrivals : Arrivals ν) (ran : List ν) : Arrivals ν := fun (sources, target) =>
  let seen := arrived arrivals ran sources target
  if seen = sources.toFinset then ∅ else seen

def collect : List (Task ν σ υ ε ω) → Except ε (List υ)
  | [] => .ok []
  | t :: ts =>
      match t.result.out with
      | .error e => .error e
      | .ok u => (collect ts).map (u :: ·)

namespace Graph

variable (g : Graph ν σ υ ε ω)

def start (s : σ) : Config ν σ := ⟨s, fun _ => ∅, g.edges.flatMap Edge.opens⟩

def tasks (c : Config ν σ) : List (Task ν σ υ ε ω) :=
  c.due.filterMap fun name => (g.nodes.lookup name).map fun f => ⟨name, c.state, f c.state⟩

def advance (order : MergeOrder υ) (k : Nat) (c : Config ν σ) (us : List υ) : Config ν σ :=
  let ran := (g.tasks c).map Task.name
  { state := (order.arrange k us).foldl g.merge c.state
    arrivals := arrive c.arrivals ran
    due := g.edges.flatMap (Edge.fires c.arrivals ran) }

def run (order : MergeOrder υ) : Nat → Nat → Config ν σ → List (List (Task ν σ υ ε ω)) × Outcome σ ε
  | 0, _, _ => ([], .cut)
  | n + 1, k, c =>
      if c.due = [] then ([], .finished c.state)
      else
        match collect (g.tasks c) with
        | .error e => ([g.tasks c], .raised e)
        | .ok us =>
            let rest := run order n (k + 1) (g.advance order k c us)
            (g.tasks c :: rest.1, rest.2)

theorem mem_tasks {c : Config ν σ} {t : Task ν σ υ ε ω} (mem : t ∈ g.tasks c) :
    t.input = c.state ∧ ∃ f, (t.name, f) ∈ g.nodes ∧ t.result = f c.state := by
  obtain ⟨name, -, found⟩ := List.mem_filterMap.mp mem
  obtain ⟨f, known, rfl⟩ := Option.map_eq_some_iff.mp found
  obtain ⟨l₁, l₂, split, -⟩ := List.lookup_eq_some_iff.mp known
  exact ⟨rfl, f, split ▸ List.mem_append_right _ List.mem_cons_self, rfl⟩

theorem run_tasks (order : MergeOrder υ) (P : σ → Prop)
    (keeps : ∀ s u, P s → P (g.merge s u)) (n k : Nat) {c : Config ν σ} (start : P c.state)
    {tasks : List (Task ν σ υ ε ω)} (ran : tasks ∈ (g.run order n k c).1)
    {t : Task ν σ υ ε ω} (mem : t ∈ tasks) :
    P t.input ∧ ∃ f, (t.name, f) ∈ g.nodes ∧ t.result = f t.input := by
  have here (c : Config ν σ) (start : P c.state) (mem : t ∈ g.tasks c) :
      P t.input ∧ ∃ f, (t.name, f) ∈ g.nodes ∧ t.result = f t.input := by
    obtain ⟨same, node⟩ := g.mem_tasks mem
    rw [same]
    exact ⟨start, node⟩
  induction n generalizing k c with
  | zero => cases ran
  | succ n ih =>
      rw [run] at ran
      split at ran
      · cases ran
      · cases collected : collect (g.tasks c) with
        | error e =>
            rw [collected] at ran
            rw [List.mem_singleton.mp ran] at mem
            exact here c start mem
        | ok us =>
            rw [collected] at ran
            cases List.mem_cons.mp ran with
            | inl now => exact here c start (now ▸ mem)
            | inr later =>
                refine ih (k + 1) ?_ later
                show P ((order.arrange k us).foldl g.merge c.state)
                exact List.foldlRecOn _ _ start fun s kept u _ => keeps s u kept

end Graph

end

/-! ## Graphs that encode dependencies -/

def edgeInto (name : ι → ν) (needs : ι → List ι) (b : ι) : Edge ν :=
  match needs b with
  | [] => .start (name b)
  | [a] => .single (name a) (name b)
  | as => .join (as.map name) (name b)

/-- A graph whose edges encode `needs`, where `level` is the dependency depth and no node fails. -/
structure Encoding (g : Graph ν σ υ ε ω) (ι : Type) where
  nodes : List ι
  name : ι → ν
  needs : ι → List ι
  act : ι → σ → Eff ε ω υ
  value : ι → σ → υ
  level : ι → Nat
  distinct : (nodes.map name).Nodup
  known : ∀ b ∈ nodes, ∀ a ∈ needs b, a ∈ nodes
  table : g.nodes = nodes.map fun b => (name b, act b)
  wiring : g.edges.filter Edge.leads = nodes.map (edgeInto name needs)
  succeeds : ∀ b ∈ nodes, ∀ s, (act b s).out = .ok (value b s)
  level_le : ∀ b ∈ nodes, ∀ n, level b ≤ n ↔ ∀ a ∈ needs b, level a < n

theorem flatMap_leads (es : List (Edge ν)) (f : Edge ν → List ν) (none : ∀ a, f (.finish a) = []) :
    es.flatMap f = (es.filter Edge.leads).flatMap f := by
  induction es with
  | nil => rfl
  | cons e es ih =>
      rw [List.flatMap_cons, ih]
      cases e with
      | finish a => rw [none]; rfl
      | _ => rfl

theorem flatMap_ite (nodes : List ι) (name : ι → ν) (p : ι → Prop) [DecidablePred p] :
    (nodes.flatMap fun b => if p b then [name b] else []) = (nodes.filter fun b => p b).map name := by
  induction nodes with
  | nil => rfl
  | cons b nodes ih => by_cases chosen : p b <;> simp [chosen, ih]

namespace Encoding

variable {g : Graph ν σ υ ε ω} (enc : Encoding g ι)

def layer (k : Nat) : List ι := enc.nodes.filter fun b => enc.level b = k

theorem mem_layer {k : Nat} {b : ι} : b ∈ enc.layer k ↔ b ∈ enc.nodes ∧ enc.level b = k := by
  simp [layer]

theorem name_inj {a b : ι} (ha : a ∈ enc.nodes) (hb : b ∈ enc.nodes)
    (same : enc.name a = enc.name b) : a = b :=
  List.inj_on_of_nodup_map enc.distinct ha hb same

theorem level_eq_zero_iff {b : ι} (mem : b ∈ enc.nodes) : enc.level b = 0 ↔ enc.needs b = [] := by
  rw [← Nat.le_zero, enc.level_le b mem, List.eq_nil_iff_forall_not_mem]
  simp

theorem level_lt {a b : ι} (mem : b ∈ enc.nodes) (before : a ∈ enc.needs b) :
    enc.level a < enc.level b :=
  (enc.level_le b mem _).mp le_rfl a before

theorem mem_ran {k : Nat} {a : ι} (mem : a ∈ enc.nodes) :
    enc.name a ∈ (enc.layer k).map enc.name ↔ enc.level a = k := by
  constructor
  · intro ran
    obtain ⟨b, inside, same⟩ := List.mem_map.mp ran
    obtain ⟨known, rfl⟩ := enc.mem_layer.mp inside
    rw [enc.name_inj known mem same]
  · intro same
    subst same
    exact List.mem_map_of_mem (enc.mem_layer.mpr ⟨mem, rfl⟩)

section
variable [DecidableEq ν]

theorem lookup_map (nodes : List ι) (name : ι → ν) (act : ι → σ → Eff ε ω υ)
    (distinct : (nodes.map name).Nodup) {b : ι} (mem : b ∈ nodes) :
    (nodes.map fun b => (name b, act b)).lookup (name b) = some (act b) := by
  induction nodes with
  | nil => cases mem
  | cons a nodes ih =>
      obtain ⟨fresh, distinct⟩ := List.nodup_cons.mp distinct
      rcases List.mem_cons.mp mem with rfl | mem
      · simp
      · have other : (name b == name a) = false := by
          rw [beq_eq_false_iff_ne]
          exact fun same => fresh (same ▸ List.mem_map_of_mem mem)
        rw [List.map_cons, List.lookup_cons, other]
        exact ih distinct mem

theorem lookup {b : ι} (mem : b ∈ enc.nodes) : g.nodes.lookup (enc.name b) = some (enc.act b) := by
  rw [enc.table]
  exact lookup_map enc.nodes enc.name enc.act enc.distinct mem

/-- Before the `k`-th superstep the nodes of level `k` are due, and every join that has not fired
yet has seen its sources of the levels below. -/
structure At (k : Nat) (c : Config ν σ) : Prop where
  due : c.due = (enc.layer k).map enc.name
  arrivals : ∀ b ∈ enc.nodes, c.arrivals ((enc.needs b).map enc.name, enc.name b) =
    if enc.level b ≤ k then ∅
    else (((enc.needs b).filter fun a => enc.level a < k).map enc.name).toFinset

theorem at_start (s : σ) : enc.At 0 (g.start s) where
  due := by
    have opens : ∀ b ∈ enc.nodes, (edgeInto enc.name enc.needs b).opens =
        if enc.level b = 0 then [enc.name b] else [] := by
      intro b mem
      rw [edgeInto]
      split
      · rename_i none
        simp [Edge.opens, (enc.level_eq_zero_iff mem).mpr none]
      · rename_i a one
        have deep : enc.level b ≠ 0 := fun zero => by simp [(enc.level_eq_zero_iff mem).mp zero] at one
        simp [Edge.opens, deep]
      · rename_i some _
        simp [Edge.opens, (enc.level_eq_zero_iff mem).not.mpr some]
    rw [Graph.start, flatMap_leads _ _ fun _ => rfl, enc.wiring, List.flatMap_map,
      List.flatMap_congr opens, flatMap_ite]
    rfl
  arrivals b _ := by
    simp [Graph.start]

theorem tasks_at {k : Nat} {c : Config ν σ} (inv : enc.At k c) :
    g.tasks c = (enc.layer k).map fun b => ⟨enc.name b, c.state, enc.act b c.state⟩ := by
  rw [Graph.tasks, inv.due, List.filterMap_map]
  conv_rhs => rw [← List.filterMap_eq_map]
  apply List.filterMap_congr
  intro b mem
  simp [enc.lookup (enc.mem_layer.mp mem).1]

theorem arrived_at {k : Nat} {c : Config ν σ} (inv : enc.At k c) {b : ι} (mem : b ∈ enc.nodes) :
    arrived c.arrivals ((enc.layer k).map enc.name) ((enc.needs b).map enc.name) (enc.name b) =
      if enc.level b ≤ k then ∅
      else (((enc.needs b).filter fun a => enc.level a < k + 1).map enc.name).toFinset := by
  have ran : ∀ a ∈ enc.needs b, (enc.name a ∈ (enc.layer k).map enc.name ↔ enc.level a = k) :=
    fun a before => enc.mem_ran (enc.known b mem a before)
  rw [arrived, inv.arrivals b mem]
  ext x
  simp only [Finset.mem_union, List.mem_toFinset, List.mem_filter, decide_eq_true_eq, List.mem_map]
  split
  · rename_i low
    simp only [Finset.notMem_empty, false_or, iff_false]
    rintro ⟨⟨a, before, rfl⟩, ⟨a', inside, same⟩⟩
    have here := (ran a before).mp (List.mem_map.mpr ⟨a', inside, same⟩)
    have := enc.level_lt mem before
    omega
  · simp only [List.mem_toFinset, List.mem_map, List.mem_filter, decide_eq_true_eq]
    constructor
    · rintro (⟨a, ⟨before, earlier⟩, rfl⟩ | ⟨⟨a, before, rfl⟩, ⟨a', inside, same⟩⟩)
      · exact ⟨a, ⟨before, by omega⟩, rfl⟩
      · have here := (ran a before).mp (List.mem_map.mpr ⟨a', inside, same⟩)
        exact ⟨a, ⟨before, by omega⟩, rfl⟩
    · intro ⟨a, ⟨before, upTo⟩, same⟩
      subst same
      rcases Nat.lt_succ_iff_lt_or_eq.mp upTo with earlier | here
      · exact Or.inl ⟨a, ⟨before, earlier⟩, rfl⟩
      · exact Or.inr ⟨⟨a, before, rfl⟩, List.mem_map.mp ((ran a before).mpr here)⟩

theorem filter_eq_iff {b : ι} (mem : b ∈ enc.nodes) (n : Nat) :
    (((enc.needs b).filter fun a => enc.level a < n).map enc.name).toFinset =
      ((enc.needs b).map enc.name).toFinset ↔ enc.level b ≤ n := by
  rw [enc.level_le b mem]
  constructor
  · intro all a before
    have inside : enc.name a ∈ ((enc.needs b).map enc.name).toFinset :=
      List.mem_toFinset.mpr (List.mem_map_of_mem before)
    rw [← all] at inside
    simp only [List.mem_toFinset, List.mem_map, List.mem_filter, decide_eq_true_eq] at inside
    obtain ⟨a', ⟨before', low⟩, same⟩ := inside
    rwa [← enc.name_inj (enc.known b mem a' before') (enc.known b mem a before) same]
  · intro all
    rw [List.filter_eq_self.mpr fun a before => by simpa using all a before]

theorem fires_at {k : Nat} {c : Config ν σ} (inv : enc.At k c) {b : ι} (mem : b ∈ enc.nodes) :
    (edgeInto enc.name enc.needs b).fires c.arrivals ((enc.layer k).map enc.name) =
      if enc.level b = k + 1 then [enc.name b] else [] := by
  have seen := enc.arrived_at inv mem
  rw [edgeInto]
  split
  · rename_i none
    simp [Edge.fires, (enc.level_eq_zero_iff mem).mpr none]
  · rename_i a one
    have above : enc.level b = enc.level a + 1 := by
      have low := enc.level_lt mem (one ▸ List.mem_singleton_self a)
      have high := (enc.level_le b mem (enc.level a + 1)).mpr (by simp [one])
      omega
    have inside := enc.known b mem a (one ▸ List.mem_singleton_self a)
    simp only [Edge.fires, enc.mem_ran inside, above, Nat.add_right_cancel_iff]
  · rename_i some _
    have deep : enc.level b ≠ 0 := (enc.level_eq_zero_iff mem).not.mpr some
    rw [Edge.fires, seen]
    by_cases low : enc.level b ≤ k
    · have nonempty : ((enc.needs b).map enc.name).toFinset ≠ ∅ := by
        simpa [List.toFinset_eq_empty_iff] using some
      have : enc.level b ≠ k + 1 := by omega
      simp [low, this, nonempty.symm]
    · simp only [low, if_false, enc.filter_eq_iff mem]
      have : enc.level b ≤ k + 1 ↔ enc.level b = k + 1 := by omega
      simp only [this]

def updates (k : Nat) (s : σ) : List υ := (enc.layer k).map fun b => enc.value b s

theorem collect_at {k : Nat} {c : Config ν σ} (inv : enc.At k c) :
    collect (g.tasks c) = .ok (enc.updates k c.state) := by
  have succeeds : ∀ b ∈ enc.layer k, (enc.act b c.state).out = .ok (enc.value b c.state) :=
    fun b mem => enc.succeeds b (enc.mem_layer.mp mem).1 c.state
  rw [enc.tasks_at inv, updates]
  revert succeeds
  induction enc.layer k with
  | nil => exact fun _ => rfl
  | cons b layer ih =>
      intro succeeds
      rw [List.map_cons, collect, succeeds b (by simp)]
      simp only [ih fun b mem => succeeds b (by simp [mem])]
      rfl

theorem at_advance (order : MergeOrder υ) {k : Nat} {c : Config ν σ} (inv : enc.At k c)
    (us : List υ) : enc.At (k + 1) (g.advance order k c us) := by
  have ran : (g.tasks c).map Task.name = (enc.layer k).map enc.name := by
    rw [enc.tasks_at inv, List.map_map]
    rfl
  refine ⟨?_, fun b mem => ?_⟩
  · rw [Graph.advance, ran, flatMap_leads _ _ fun _ => rfl, enc.wiring, List.flatMap_map,
      List.flatMap_congr fun b mem => enc.fires_at inv mem, flatMap_ite]
    rfl
  · simp only [Graph.advance, ran, arrive, enc.arrived_at inv mem]
    by_cases low : enc.level b ≤ k
    · have : enc.level b ≤ k + 1 := by omega
      simp [low, this]
    · simp only [low, if_false, enc.filter_eq_iff mem]

/-! ## The whole run -/

def stateAt (order : MergeOrder υ) (s : σ) : Nat → σ
  | 0 => s
  | k + 1 => (order.arrange k (enc.updates k (stateAt order s k))).foldl g.merge (stateAt order s k)

def tasksAt (order : MergeOrder υ) (s : σ) (k : Nat) : List (Task ν σ υ ε ω) :=
  (enc.layer k).map fun b => ⟨enc.name b, enc.stateAt order s k, enc.act b (enc.stateAt order s k)⟩

theorem run_at (order : MergeOrder υ) (s : σ) (h : Nat) (top : ∀ b ∈ enc.nodes, enc.level b < h)
    (full : ∀ k < h, enc.layer k ≠ []) (n k : Nat) (rest : k + n = h) {c : Config ν σ}
    (inv : enc.At k c) (state : c.state = enc.stateAt order s k) (extra : Nat) :
    g.run order (n + 1 + extra) k c =
      ((List.range' k n).map (enc.tasksAt order s), .finished (enc.stateAt order s h)) := by
  induction n generalizing k c with
  | zero =>
      have none : c.due = [] := by
        rw [inv.due, List.map_eq_nil_iff, List.eq_nil_iff_forall_not_mem]
        intro b mem
        obtain ⟨inside, rfl⟩ := enc.mem_layer.mp mem
        exact absurd (top b inside) (by omega)
      obtain rfl : k = h := by omega
      rw [Nat.add_right_comm, Graph.run, if_pos none, state]
      rfl
  | succ n ih =>
      have some : c.due ≠ [] := by
        rw [inv.due]
        simpa using full k (by omega)
      have next := enc.at_advance order inv (enc.updates k c.state)
      have later := ih (k + 1) (by omega) next (by rw [Graph.advance, state]; rfl)
      rw [Nat.add_right_comm, Graph.run, if_neg some, enc.collect_at inv]
      simp only [later]
      rw [enc.tasks_at inv, state]
      rfl

/-- A graph that encodes dependencies runs each node once, in the superstep of its level, and ends
without a failure, whatever the order of the merges. -/
theorem run_eq (order : MergeOrder υ) (s : σ) (h : Nat) (top : ∀ b ∈ enc.nodes, enc.level b < h)
    (full : ∀ k < h, enc.layer k ≠ []) (extra : Nat) :
    g.run order (h + 1 + extra) 0 (g.start s) =
      ((List.range h).map (enc.tasksAt order s), .finished (enc.stateAt order s h)) := by
  rw [List.range_eq_range']
  exact enc.run_at order s h top full h 0 (by omega) (enc.at_start s) rfl extra

end

end Encoding

end RealityAI.Library.Superstep
