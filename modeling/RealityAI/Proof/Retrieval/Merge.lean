import RealityAI.Model.SharedDocuments
import RealityAI.Proof.Retrieval.Fusion

namespace RealityAI.Proof.Retrieval
open Python Model Model.State Model.Schemas Model.Retrieval
open Model.SharedDocuments (Scores ById setScore writeResult runQuery)

def shown (scores : Scores) (d : Document) : Document := { d with score := scores d.docId }

theorem writeResults_fst (entries : List (String × Rat × Document)) (state : List Document × Scores) :
    (entries.foldl writeResult state).1 = state.1 ++ entries.map fun entry => entry.2.2 := by
  induction entries generalizing state with
  | nil => simp
  | cons entry entries ih => simp [ih, writeResult]

theorem writeResults_other {entries : List (String × Rat × Document)} {id : String}
    (absent : id ∉ entries.map fun entry => entry.2.2.docId) (state : List Document × Scores) :
    (entries.foldl writeResult state).2 id = state.2 id := by
  induction entries generalizing state with
  | nil => rfl
  | cons entry entries ih =>
      obtain ⟨differ, absent⟩ := not_or.mp (mt List.mem_cons.mpr absent)
      rw [List.foldl_cons, ih absent]
      exact if_neg differ

theorem writeResults_written {entries : List (String × Rat × Document)}
    (distinct : (entries.map fun entry => entry.2.2.docId).Nodup) (state : List Document × Scores) :
    ∀ entry ∈ entries, (entries.foldl writeResult state).2 entry.2.2.docId = entry.2.1 := by
  induction entries generalizing state with
  | nil => nofun
  | cons first entries ih =>
      obtain ⟨new, distinct⟩ := List.nodup_cons.mp distinct
      intro entry mem
      rcases List.mem_cons.mp mem with rfl | mem
      · rw [List.foldl_cons, writeResults_other new]
        exact if_pos rfl
      · exact ih distinct _ entry mem

theorem fusion_eq (lists : List (List Document)) (k topN : Nat) (scores : Scores) :
    SharedDocuments.reciprocalRankFusion lists k topN scores =
      ((sortedDown (fun entry => entry.2.1) (fused k lists)).take topN).foldl writeResult
        ([], scores) := rfl

theorem fusion_shown (lists : List (List Document)) (k topN : Nat) (scores : Scores) :
    (SharedDocuments.reciprocalRankFusion lists k topN scores).1.map
        (shown (SharedDocuments.reciprocalRankFusion lists k topN scores).2) =
      reciprocalRankFusion lists k topN := by
  have perm := sortedDown_perm (fun entry => entry.2.1) (fused k lists)
  rw [fusion_eq, reciprocalRankFusion_eq]
  generalize sortedDown (fun entry => entry.2.1) (fused k lists) = entries at perm
  have kept : ∀ entry ∈ entries.take topN, entry ∈ fused k lists := fun entry mem =>
    perm.subset (List.mem_of_mem_take mem)
  have keys : (entries.take topN).map (fun entry => entry.2.2.docId) =
      (entries.take topN).map Prod.fst :=
    List.map_congr_left fun entry mem => scored_id (kept entry mem)
  have distinct : ((entries.take topN).map fun entry => entry.2.2.docId).Nodup := by
    rw [keys]
    have all : (entries.map Prod.fst).Nodup := (perm.map Prod.fst).nodup_iff.mpr (nodup_keys_fused k)
    exact all.sublist ((List.take_sublist topN entries).map _)
  have written := writeResults_written distinct ([], scores)
  rw [writeResults_fst, List.nil_append, List.map_map]
  apply List.map_congr_left
  intro entry mem
  rw [Function.comp_apply, shown, written entry mem]

section
variable (b : Builtins) (store : DocumentStore) (courseFilter : Option String)

def retrieved (q : String) : List Document := hybridRetrieve b store q courseFilter none 10 5

theorem hybridRetrieve_shown (q : String) (scores : Scores) :
    (SharedDocuments.hybridRetrieve b store q courseFilter none 10 5 scores).1.map
        (shown (SharedDocuments.hybridRetrieve b store q courseFilter none 10 5 scores).2) =
      retrieved b store courseFilter q :=
  fusion_shown _ defaultK 5 scores

def withScore (kept : Document × Rat) : Document := { kept.1 with score := kept.2 }

def observed (byId : ById) : List (String × Document) := byId.map (Prod.map id withScore)

theorem keepBest_observed (scores : Scores) (byId : ById) (d : Document) :
    observed (SharedDocuments.keepBest scores byId d) =
      QueryAgent.keepBest (observed byId) (shown scores d) := by
  apply map_upsert
  intro old
  cases old with
  | none => rfl
  | some kept =>
      simp only [Option.elim_some, Option.map_some, apply_ite withScore]
      rfl

theorem keepBests_observed (scores : Scores) (docs : List Document) (byId : ById) :
    observed (docs.foldl (SharedDocuments.keepBest scores) byId) =
      (docs.map (shown scores)).foldl QueryAgent.keepBest (observed byId) := by
  induction docs generalizing byId with
  | nil => rfl
  | cons d docs ih => rw [List.foldl_cons, ih, keepBest_observed, List.map_cons, List.foldl_cons]

theorem runQueries_observed (queries : List String) (state : Scores × ById) :
    observed (queries.foldl (runQuery b store courseFilter) state).2 =
      (queries.flatMap (retrieved b store courseFilter)).foldl QueryAgent.keepBest
        (observed state.2) := by
  induction queries generalizing state with
  | nil => rfl
  | cons q queries ih =>
      rw [List.foldl_cons, ih, List.flatMap_cons, List.foldl_append,
        ← hybridRetrieve_shown b store courseFilter q state.1]
      rw [← keepBests_observed]
      rfl

end

theorem syllabusChunks_shared (b : Builtins) (stores : QueryAgent.DataStores) (courseId : StepValue)
    (course : String) (queries : List String) (scores : Scores) :
    (SharedDocuments.syllabusChunks b stores.documents courseId course queries scores).1 =
      QueryAgent.syllabusChunks b stores courseId course queries := by
  unfold SharedDocuments.syllabusChunks QueryAgent.syllabusChunks
  dsimp only
  generalize (if courseId.truthy then some course else none) = courseFilter
  have loop := runQueries_observed b stores.documents courseFilter queries (scores, [])
  generalize queries.foldl (runQuery b stores.documents courseFilter) (scores, []) = final at loop ⊢
  have entries : (queries.flatMap (retrieved b stores.documents courseFilter)).foldl
      QueryAgent.keepBest [] = observed final.2 := loop.symm
  have values : (observed final.2).map Prod.snd = (final.2.map Prod.snd).map withScore := by
    simp [observed]
  show _ = (sortedDown Document.score (((queries.flatMap
    (retrieved b stores.documents courseFilter)).foldl QueryAgent.keepBest []).map Prod.snd)).map _
  rw [entries, values, sortedDown_map Document.score withScore, List.map_map]
  rfl

def better (d : Document) (old : Option Document) : Document :=
  old.elim d fun best => if best.score < d.score then d else best

theorem better_cases (d first : Document) :
    (better d (some first) = d ∧ first.score < d.score) ∨
      (better d (some first) = first ∧ d.score ≤ first.score) := by
  by_cases less : first.score < d.score
  · exact Or.inl ⟨if_pos less, less⟩
  · exact Or.inr ⟨if_neg less, le_of_not_gt less⟩

theorem better_fold_from {docs : List Document} {first best : Document}
    (found : docs.foldl (fun old d => some (better d old)) (some first) = some best) :
    best ∈ first :: docs ∧ ∀ d ∈ first :: docs, d.score ≤ best.score := by
  induction docs generalizing first with
  | nil =>
      obtain rfl := Option.some.inj found
      simp
  | cons d docs ih =>
      rw [List.foldl_cons] at found
      rcases better_cases d first with ⟨same, less⟩ | ⟨same, most⟩
      · rw [same] at found
        obtain ⟨mem, bound⟩ := ih found
        have top := bound d List.mem_cons_self
        exact ⟨List.mem_cons_of_mem _ mem, List.forall_mem_cons.mpr ⟨less.le.trans top, bound⟩⟩
      · rw [same] at found
        obtain ⟨mem, bound⟩ := ih found
        obtain ⟨top, bound⟩ := List.forall_mem_cons.mp bound
        refine ⟨?_, List.forall_mem_cons.mpr ⟨top, List.forall_mem_cons.mpr ⟨most.trans top, bound⟩⟩⟩
        rcases List.mem_cons.mp mem with here | later
        · rw [here]
          exact List.mem_cons_self
        · exact List.mem_cons_of_mem _ (List.mem_cons_of_mem _ later)

theorem better_fold {docs : List Document} {best : Document}
    (found : docs.foldl (fun old d => some (better d old)) none = some best) :
    best ∈ docs ∧ ∀ d ∈ docs, d.score ≤ best.score := by
  cases docs with
  | nil => cases found
  | cons d docs => exact better_fold_from found

def byId (docs : List Document) : List (String × Document) := fill Document.docId better docs []

theorem byId_entry {docs : List Document} {id : String} {best : Document}
    (mem : (id, best) ∈ byId docs) :
    best.docId = id ∧ best ∈ docs ∧ ∀ d ∈ docs, d.docId = id → d.score ≤ best.score := by
  have nodup : ((byId docs).map Prod.fst).Nodup := nodup_keys_fill _ _ docs (by simp)
  have found := (lookup_eq_iff nodup).mpr mem
  rw [byId, lookup_fill, List.lookup_nil] at found
  obtain ⟨inside, bound⟩ := better_fold found
  obtain ⟨listed, here⟩ := List.mem_filter.mp inside
  refine ⟨of_decide_eq_true here, listed, fun d listed' here' => ?_⟩
  exact bound d (List.mem_filter.mpr ⟨listed', decide_eq_true here'⟩)

/-- The documents of the retrievals, each once, with the best of its scores. -/
structure Merged (results : List (List Document)) (chunks : List SyllabusChunk) : Prop where
  distinct : (chunks.map SyllabusChunk.chunkId).Nodup
  complete : ∀ id, id ∈ chunks.map SyllabusChunk.chunkId ↔ ∃ docs ∈ results, id ∈ ids docs
  attained : ∀ c ∈ chunks, ∃ docs ∈ results, ∃ d ∈ docs,
    d.docId = c.chunkId ∧ d.content = c.content ∧ d.score = c.score
  highest : ∀ c ∈ chunks, ∀ docs ∈ results, ∀ d ∈ docs, d.docId = c.chunkId → d.score ≤ c.score
  sorted : chunks.Pairwise fun c c' => c'.score ≤ c.score

def chunk (course : String) (d : Document) : SyllabusChunk :=
  { chunkId := d.docId, courseId := course, content := d.content, score := d.score }

theorem merged (results : List (List Document)) (course : String) :
    Merged results ((sortedDown Document.score ((byId results.flatten).map Prod.snd)).map
      (chunk course)) := by
  have keys (id : String) : id ∈ (byId results.flatten).map Prod.fst ↔
      ∃ docs ∈ results, id ∈ ids docs := by
    rw [byId, mem_keys_fill]
    simp [ids]
  have named : ((byId results.flatten).map Prod.snd).map Document.docId =
      (byId results.flatten).map Prod.fst := by
    rw [List.map_map]
    exact List.map_congr_left fun entry mem => (byId_entry mem).1
  have perm := sortedDown_perm Document.score ((byId results.flatten).map Prod.snd)
  have ordered := sortedDown_pairwise Document.score ((byId results.flatten).map Prod.snd)
  generalize sortedDown Document.score ((byId results.flatten).map Prod.snd) = docs at perm ordered ⊢
  have chunkIds : ((docs.map (chunk course)).map SyllabusChunk.chunkId).Perm
      ((byId results.flatten).map Prod.fst) := by
    rw [← named, List.map_map]
    exact perm.map Document.docId
  have best : ∀ d ∈ docs, d ∈ results.flatten ∧
      ∀ d' ∈ results.flatten, d'.docId = d.docId → d'.score ≤ d.score := by
    intro d mem
    obtain ⟨⟨id, d'⟩, entry, rfl⟩ := List.mem_map.mp (perm.subset mem)
    obtain ⟨rfl, listed, bound⟩ := byId_entry entry
    exact ⟨listed, bound⟩
  constructor
  · exact chunkIds.nodup_iff.mpr (nodup_keys_fill _ _ _ (by simp))
  · intro id
    rw [chunkIds.mem_iff]
    exact keys id
  · intro c mem
    obtain ⟨d, kept, rfl⟩ := List.mem_map.mp mem
    obtain ⟨docs, listed, inside⟩ := List.mem_flatten.mp (best d kept).1
    exact ⟨docs, listed, d, inside, rfl, rfl, rfl⟩
  · intro c mem docs' listed d' inside same
    obtain ⟨d, kept, rfl⟩ := List.mem_map.mp mem
    exact (best d kept).2 d' (List.mem_flatten.mpr ⟨docs', listed, inside⟩) same
  · exact List.pairwise_map.mpr ordered

theorem Merged.grows {results results' : List (List Document)} {chunks chunks' : List SyllabusChunk}
    (merged : Merged results chunks) (merged' : Merged results' chunks') (sub : results ⊆ results') :
    ∀ c ∈ chunks, ∃ c' ∈ chunks', c'.chunkId = c.chunkId ∧ c.score ≤ c'.score := by
  intro c mem
  obtain ⟨docs, listed, d, inside, same, -, score⟩ := merged.attained c mem
  have again : c.chunkId ∈ chunks'.map SyllabusChunk.chunkId := by
    rw [merged'.complete]
    exact ⟨docs, sub listed, same ▸ List.mem_map_of_mem inside⟩
  obtain ⟨c', mem', same'⟩ := List.mem_map.mp again
  refine ⟨c', mem', same', ?_⟩
  rw [← score]
  exact merged'.highest c' mem' docs (sub listed) d inside (same.trans same'.symm)

section
variable (b : Builtins) (stores : QueryAgent.DataStores) (courseId : StepValue) (course : String)

def retrievedFor (q : String) : List Document :=
  hybridRetrieve b stores.documents q (if courseId.truthy then some course else none) none 10 5

theorem syllabusChunks_merged (queries : List String) (scores : Scores) :
    Merged (queries.map (retrievedFor b stores courseId course))
      (SharedDocuments.syllabusChunks b stores.documents courseId course queries scores).1 := by
  rw [syllabusChunks_shared]
  have whole := merged (queries.map (retrievedFor b stores courseId course)) course
  rw [← List.flatMap_def] at whole
  exact whole

/-- On shared documents, whatever their score fields hold, each query retrieves the same, the
retrievals are merged without loss, and one more expansion takes nothing away. -/
theorem merge_correct (primary : String) (expansion : List String) (scores : Scores) :
    (∀ (q : String) (before : Scores),
      (SharedDocuments.hybridRetrieve b stores.documents q
          (if courseId.truthy then some course else none) none 10 5 before).1.map
        (shown (SharedDocuments.hybridRetrieve b stores.documents q
          (if courseId.truthy then some course else none) none 10 5 before).2) =
      retrievedFor b stores courseId course q) ∧
    Merged ((primary :: expansion).map (retrievedFor b stores courseId course))
      (SharedDocuments.syllabusChunks b stores.documents courseId course (primary :: expansion)
        scores).1 ∧
    ∀ (extra : String) (scores' : Scores),
      ∀ c ∈ (SharedDocuments.syllabusChunks b stores.documents courseId course
        (primary :: expansion) scores).1,
      ∃ c' ∈ (SharedDocuments.syllabusChunks b stores.documents courseId course
        (primary :: (expansion ++ [extra])) scores').1,
        c'.chunkId = c.chunkId ∧ c.score ≤ c'.score := by
  refine ⟨fun q before => hybridRetrieve_shown b stores.documents _ q before,
    syllabusChunks_merged b stores courseId course _ scores, fun extra scores' => ?_⟩
  apply Merged.grows (syllabusChunks_merged b stores courseId course _ scores)
    (syllabusChunks_merged b stores courseId course _ scores')
  intro docs mem
  rw [← List.cons_append, List.map_append]
  exact List.mem_append_left _ mem

end

end RealityAI.Proof.Retrieval
