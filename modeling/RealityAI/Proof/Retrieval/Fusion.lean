import RealityAI.Model.Retrieval
import RealityAI.Python.Dicts
import Mathlib.Algebra.BigOperators.Group.List.Basic
import Mathlib.Data.List.Dedup

namespace RealityAI.Proof.Retrieval
open Python Model.Retrieval

def ids (docs : List Document) : List String := docs.map Document.docId

def reciprocalRank (k : Nat) (id : String) (docs : List Document) : Rat :=
  ((ids docs).idxOf? id).elim 0 fun position => 1 / ((k + (position + 1) : Nat) : Rat)

def fusedScore (k : Nat) (lists : List (List Document)) (id : String) : Rat :=
  (lists.map (reciprocalRank k id)).sum

theorem fusedScore_perm {k : Nat} {lists lists' : List (List Document)} (perm : lists'.Perm lists)
    (id : String) : fusedScore k lists' id = fusedScore k lists id :=
  (perm.map _).sum_eq

def weight (k : Nat) (ranked : Nat × Document) : Rat := 1 / ((k + ranked.1 : Nat) : Rat)

def entryId (ranked : Nat × Document) : String := ranked.2.docId

def addWeight (k : Nat) (ranked : Nat × Document) (old : Option (Rat × Document)) : Rat × Document :=
  (old.elim 0 Prod.fst + weight k ranked, ranked.2)

def fused (k : Nat) (lists : List (List Document)) : Fused :=
  fill entryId (addWeight k) (lists.flatMap rankFrom) []

theorem reciprocalRankFusion_eq (lists : List (List Document)) (k topN : Nat) :
    reciprocalRankFusion lists k topN =
      ((sortedDown (fun entry => entry.2.1) (fused k lists)).take topN).map fun entry =>
        { entry.2.2 with score := entry.2.1 } := rfl

theorem added_score (k : Nat) (entries : List (Nat × Document)) (old : Option (Rat × Document)) :
    (entries.foldl (fun old x => some (addWeight k x old)) old).elim 0 Prod.fst =
      old.elim 0 Prod.fst + (entries.map (weight k)).sum := by
  induction entries generalizing old with
  | nil => simp
  | cons x entries ih =>
      rw [List.foldl_cons, ih, Option.elim_some, List.map_cons, List.sum_cons, addWeight]
      exact Rat.add_assoc _ _ _

theorem added_document (k : Nat) {entries : List (Nat × Document)} {old : Option (Rat × Document)}
    {score : Rat} {d : Document}
    (added : entries.foldl (fun old x => some (addWeight k x old)) old = some (score, d)) :
    (∃ rank, (rank, d) ∈ entries) ∨ ∃ before, old = some (before, d) := by
  induction entries generalizing old with
  | nil => exact Or.inr ⟨score, added⟩
  | cons x entries ih =>
      rw [List.foldl_cons] at added
      rcases ih added with ⟨rank, mem⟩ | ⟨before, same⟩
      · exact Or.inl ⟨rank, List.mem_cons_of_mem _ mem⟩
      · obtain ⟨-, rfl⟩ := Prod.mk.inj (Option.some.inj same)
        exact Or.inl ⟨x.1, List.mem_cons_self⟩

theorem rankFrom_ids (docs : List Document) : (rankFrom docs).map entryId = ids docs := by
  unfold rankFrom ids
  rw [List.map_map]
  have same : (entryId ∘ fun entry : Document × Nat => (entry.2 + 1, entry.1)) =
      Document.docId ∘ Prod.fst := rfl
  rw [same, ← List.map_map, List.zipIdx_map_fst]

theorem weights_of_list (k : Nat) (id : String) {docs : List Document} (nodup : (ids docs).Nodup) :
    (((rankFrom docs).filter fun x => entryId x = id).map (weight k)).sum =
      reciprocalRank k id docs := by
  have shifted (start : Nat) :
      ((((docs.zipIdx start).map fun entry => (entry.2 + 1, entry.1)).filter
          fun x => entryId x = id).map (weight k)).sum =
        ((ids docs).idxOf? id).elim 0 fun position =>
          1 / ((k + (start + position + 1) : Nat) : Rat) := by
    induction docs generalizing start with
    | nil => rfl
    | cons d docs ih =>
        obtain ⟨new, rest⟩ := List.nodup_cons.mp nodup
        have tail := ih rest (start + 1)
        rw [List.zipIdx_cons, List.map_cons, ids, List.map_cons, List.idxOf?_cons]
        by_cases here : d.docId = id
        · subst here
          have absent : (ids docs).idxOf? d.docId = none := List.idxOf?_eq_none_iff.mpr new
          rw [absent] at tail
          rw [List.filter_cons_of_pos (by simp [entryId]), List.map_cons, List.sum_cons, tail]
          simp [weight]
        · have distinct : (d.docId == id) = false := beq_eq_false_iff_ne.mpr here
          have other : decide (entryId (start + 1, d) = id) = false := decide_eq_false here
          rw [List.filter_cons_of_neg (by simp [other]), tail, distinct, ids]
          cases (docs.map Document.docId).idxOf? id with
          | none => rfl
          | some position =>
              have ranks : start + 1 + position + 1 = start + (position + 1) + 1 := by omega
              simp only [Bool.false_eq_true, if_false, Option.map_some, Option.elim_some, ranks]
  have whole := shifted 0
  simp only [Nat.zero_add] at whole
  exact whole

theorem weights_of_lists (k : Nat) (id : String) {lists : List (List Document)}
    (nodup : ∀ docs ∈ lists, (ids docs).Nodup) :
    (((lists.flatMap rankFrom).filter fun x => entryId x = id).map (weight k)).sum =
      fusedScore k lists id := by
  induction lists with
  | nil => rfl
  | cons docs lists ih =>
      obtain ⟨here, later⟩ := List.forall_mem_cons.mp nodup
      rw [List.flatMap_cons, List.filter_append, List.map_append, List.sum_append,
        weights_of_list k id here, ih later, fusedScore, fusedScore, List.map_cons, List.sum_cons]

theorem entryIds (lists : List (List Document)) :
    (lists.flatMap rankFrom).map entryId = lists.flatMap ids := by
  rw [List.map_flatMap]
  exact List.flatMap_congr fun docs _ => rankFrom_ids docs

theorem mem_of_rankFrom {docs : List Document} {rank : Nat} {d : Document}
    (mem : (rank, d) ∈ rankFrom docs) : d ∈ docs := by
  obtain ⟨⟨d', position⟩, listed, same⟩ := List.mem_map.mp mem
  obtain ⟨-, rfl⟩ := Prod.mk.inj same
  exact List.fst_mem_of_mem_zipIdx listed

section
variable (k : Nat) {lists : List (List Document)}

theorem mem_keys_fused (id : String) :
    id ∈ (fused k lists).map Prod.fst ↔ id ∈ lists.flatMap ids := by
  rw [fused, mem_keys_fill, entryIds]
  simp

theorem nodup_keys_fused : ((fused k lists).map Prod.fst).Nodup :=
  nodup_keys_fill entryId (addWeight k) _ (by simp)

theorem fused_length : (fused k lists).length = (lists.flatMap ids).dedup.length := by
  have same : ((fused k lists).map Prod.fst).Perm (lists.flatMap ids).dedup := by
    apply (List.perm_ext_iff_of_nodup (nodup_keys_fused k) (List.nodup_dedup _)).mpr
    intro id
    rw [mem_keys_fused, List.mem_dedup]
  rw [← same.length_eq, List.length_map]

theorem fused_document {id : String} {score : Rat} {d : Document}
    (mem : (id, score, d) ∈ fused k lists) : d.docId = id ∧ d ∈ lists.flatten := by
  have found := (lookup_eq_iff (nodup_keys_fused k)).mpr mem
  rw [fused, lookup_fill, List.lookup_nil] at found
  rcases added_document k found with ⟨rank, entry⟩ | ⟨before, none⟩
  · obtain ⟨ranked, here⟩ := List.mem_filter.mp entry
    obtain ⟨docs, listed, ranked⟩ := List.mem_flatMap.mp ranked
    exact ⟨of_decide_eq_true here, List.mem_flatten.mpr ⟨docs, listed, mem_of_rankFrom ranked⟩⟩
  · cases none

theorem fused_score (nodup : ∀ docs ∈ lists, (ids docs).Nodup) {id : String} {score : Rat}
    {d : Document} (mem : (id, score, d) ∈ fused k lists) : score = fusedScore k lists id := by
  have found := (lookup_eq_iff (nodup_keys_fused k)).mpr mem
  rw [fused, lookup_fill, List.lookup_nil] at found
  have scored := added_score k ((lists.flatMap rankFrom).filter fun x => entryId x = id) none
  rw [found, weights_of_lists k id nodup] at scored
  simpa using scored

end

structure TopFused (lists : List (List Document)) (k topN : Nat) (result : List Document) : Prop where
  distinct : (ids result).Nodup
  length : result.length = min topN (lists.flatMap ids).dedup.length
  documents : ∀ d ∈ result, ∃ stored ∈ lists.flatten, d = { stored with score := d.score }
  score : ∀ d ∈ result, d.score = fusedScore k lists d.docId
  sorted : result.Pairwise fun d d' => d'.score ≤ d.score
  best : ∀ d ∈ result, ∀ id ∈ lists.flatMap ids, id ∉ ids result →
    fusedScore k lists id ≤ d.score

theorem pairwise_take_drop {α : Type} {r : α → α → Prop} {l : List α} (pairwise : l.Pairwise r)
    (n : Nat) : ∀ a ∈ l.take n, ∀ b ∈ l.drop n, r a b := by
  rw [← List.take_append_drop n l, List.pairwise_append] at pairwise
  exact pairwise.2.2

def scored (entry : String × Rat × Document) : Document := { entry.2.2 with score := entry.2.1 }

theorem scored_id {k : Nat} {lists : List (List Document)} {entry : String × Rat × Document}
    (mem : entry ∈ fused k lists) : (scored entry).docId = entry.1 :=
  (fused_document k mem).1

section
variable {lists : List (List Document)} (nodup : ∀ docs ∈ lists, (ids docs).Nodup) (k topN : Nat)
include nodup

theorem fusion_topFused : TopFused lists k topN (reciprocalRankFusion lists k topN) := by
  rw [reciprocalRankFusion_eq]
  have perm := sortedDown_perm (fun entry => entry.2.1) (fused k lists)
  have ordered := sortedDown_pairwise (fun entry => entry.2.1) (fused k lists)
  generalize sortedDown (fun entry => entry.2.1) (fused k lists) = entries at perm ordered ⊢
  have kept : ∀ entry ∈ entries.take topN, entry ∈ fused k lists := fun entry mem =>
    perm.subset (List.mem_of_mem_take mem)
  have keys : ids ((entries.take topN).map scored) = (entries.take topN).map Prod.fst := by
    rw [ids, List.map_map]
    exact List.map_congr_left fun entry mem => scored_id (kept entry mem)
  have distinct : (entries.map Prod.fst).Nodup :=
    (perm.map Prod.fst).nodup_iff.mpr (nodup_keys_fused k)
  show TopFused lists k topN ((entries.take topN).map scored)
  refine ⟨?_, ?_, ?_, ?_, ?_, ?_⟩
  · rw [keys]
    exact distinct.sublist ((List.take_sublist topN entries).map _)
  · rw [List.length_map, List.length_take, perm.length_eq, fused_length]
  · intro d mem
    obtain ⟨entry, listed, rfl⟩ := List.mem_map.mp mem
    exact ⟨entry.2.2, (fused_document k (kept entry listed)).2, rfl⟩
  · intro d mem
    obtain ⟨entry, listed, rfl⟩ := List.mem_map.mp mem
    rw [scored_id (kept entry listed)]
    exact fused_score k nodup (kept entry listed)
  · exact List.pairwise_map.mpr (ordered.sublist (List.take_sublist topN entries))
  · intro d mem id named out
    obtain ⟨entry, listed, rfl⟩ := List.mem_map.mp mem
    obtain ⟨⟨id', score', d'⟩, stored, rfl⟩ := List.mem_map.mp ((mem_keys_fused k id).mpr named)
    rw [keys] at out
    -- An entry that is not among the first ones is among the others.
    have dropped : (id', score', d') ∈ entries.drop topN := by
      have whole := perm.symm.subset stored
      rw [← List.take_append_drop topN entries, List.mem_append] at whole
      exact whole.resolve_left fun first => out (List.mem_map_of_mem first)
    rw [← fused_score k nodup stored]
    exact pairwise_take_drop ordered topN entry listed _ dropped

/-- Reciprocal rank fusion is correct, and a document has one score in whatever order the lists
come. -/
theorem fusion_correct :
    TopFused lists k topN (reciprocalRankFusion lists k topN) ∧
    ∀ lists' : List (List Document), lists'.Perm lists → ∀ topN' : Nat,
      ∀ d ∈ reciprocalRankFusion lists k topN, ∀ d' ∈ reciprocalRankFusion lists' k topN',
        d'.docId = d.docId → d'.score = d.score := by
  have top := fusion_topFused nodup k topN
  refine ⟨top, fun lists' perm topN' d mem d' mem' same => ?_⟩
  have nodup' : ∀ docs ∈ lists', (ids docs).Nodup := fun docs listed =>
    nodup docs (perm.subset listed)
  have top' := fusion_topFused nodup' k topN'
  rw [top.score d mem, top'.score d' mem', same, fusedScore_perm perm]

end

def twoLists : List (List Document) :=
  [[⟨"A", "first", "", "", "", 0⟩, ⟨"B", "second", "", "", "", 0⟩],
   [⟨"B", "second", "", "", "", 0⟩, ⟨"C", "third", "", "", "", 0⟩]]

theorem twoLists_fused :
    TopFused twoLists 60 2 (reciprocalRankFusion twoLists 60 2) ∧
    ∀ lists' : List (List Document), lists'.Perm twoLists → ∀ topN' : Nat,
      ∀ d ∈ reciprocalRankFusion twoLists 60 2, ∀ d' ∈ reciprocalRankFusion lists' 60 topN',
        d'.docId = d.docId → d'.score = d.score :=
  @fusion_correct twoLists (by decide) 60 2

end RealityAI.Proof.Retrieval
