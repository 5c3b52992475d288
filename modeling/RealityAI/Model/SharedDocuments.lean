import RealityAI.Model.QuerySources

/-!
# The retrievals of `agents/query_agent.py` on shared documents

The documents of the store are objects that every retrieval returns again; their score field is
overwritten by each fusion and read by the loop over the queries. A document is known by its id.
-/

namespace RealityAI.Model.SharedDocuments
open Python Schemas State Retrieval

abbrev Scores := String → Rat

def setScore (scores : Scores) (doc : Document) (score : Rat) : Scores :=
  fun id => if id = doc.docId then score else scores id

def writeResult (state : List Document × Scores) (entry : String × Rat × Document) :
    List Document × Scores :=
  (state.1 ++ [entry.2.2], setScore state.2 entry.2.2 entry.2.1)

def reciprocalRankFusion (rankedLists : List (List Document)) (k topN : Nat) (scores : Scores) :
    List Document × Scores :=
  let fused := (rankedLists.flatMap rankFrom).foldl (addRank k) []
  let sortedIds := sortedDown (fun entry => entry.2.1) fused
  (sortedIds.take topN).foldl writeResult ([], scores)

section
variable (b : Builtins) (store : DocumentStore)

def hybridRetrieve (query : String) (courseId semester : Option String) (topK topN : Nat)
    (scores : Scores) : List Document × Scores :=
  reciprocalRankFusion
    [vectorSearch b store query topK courseId semester,
      keywordSearch b store query courseId semester] defaultK topN scores

abbrev ById := List (String × Document × Rat)

def keepBest (scores : Scores) (byId : ById) (d : Document) : ById :=
  let score := scores d.docId
  upsert d.docId
    (fun existing => existing.elim (d, score) fun kept => if kept.2 < score then (d, score) else kept)
    byId

def runQuery (courseFilter : Option String) (state : Scores × ById) (q : String) : Scores × ById :=
  let (docs, scores) := hybridRetrieve b store q courseFilter none 10 5 state.1
  (scores, docs.foldl (keepBest scores) state.2)

/-- `_query_syllabus_rag` after its parameters are read. -/
def syllabusChunks (courseId : StepValue) (course : String) (queries : List String)
    (scores : Scores) : List SyllabusChunk × Scores :=
  let courseFilter := if courseId.truthy then some course else none
  let (scores, byId) := queries.foldl (runQuery b store courseFilter) (scores, [])
  let deduped := sortedDown (fun kv => kv.2) (byId.map Prod.snd)
  (deduped.map fun kv =>
    { chunkId := kv.1.docId, courseId := course, content := kv.1.content, score := kv.2 }, scores)

end

end RealityAI.Model.SharedDocuments
