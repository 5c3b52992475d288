import RealityAI.Model.QueryOutputs
import RealityAI.Python.Builtins

/-!
# `retrieval/hybrid.py`

Scores are exact. `reciprocal_rank_fusion` sets the score of the stored documents themselves; here it
returns documents with the new score, since nothing reads the score of a stored one.
-/

namespace RealityAI.Model.Retrieval
open Python

structure Document where
  docId : String
  content : String
  courseId : String := ""
  semester : String := ""
  docType : String := ""
  score : Rat := 0
  deriving DecidableEq, Repr

def defaultK : Nat := 60

abbrev Fused := List (String × Rat × Document)

def addRank (k : Nat) (fused : Fused) (ranked : Nat × Document) : Fused :=
  upsert ranked.2.docId
    (fun old => (old.elim 0 Prod.fst + 1 / ((k + ranked.1 : Nat) : Rat), ranked.2)) fused

def rankFrom (docs : List Document) : List (Nat × Document) :=
  docs.zipIdx.map fun entry => (entry.2 + 1, entry.1)

def reciprocalRankFusion (rankedLists : List (List Document)) (k topN : Nat) : List Document :=
  let fused := (rankedLists.flatMap rankFrom).foldl (addRank k) []
  let sortedIds := sortedDown (fun entry => entry.2.1) fused
  (sortedIds.take topN).map fun entry => { entry.2.2 with score := entry.2.1 }

def mockDocuments : List Document :=
  [⟨"DOC001", "CS101 meets Mon/Wed/Fri 10:00-10:50 AM in Science Hall 201",
      "CS101", "Fall2025", "schedule", 0⟩,
   ⟨"DOC002", "CS101: Introduction to Computer Science. Covers fundamentals of programming.",
      "CS101", "Fall2025", "syllabus", 0⟩,
   ⟨"DOC003", "CS201: Data Structures and Algorithms. Prerequisites: CS101.",
      "CS201", "Fall2025", "syllabus", 0⟩,
   ⟨"DOC004", "CS201 meets Tue/Thu 2:00-3:15 PM in Engineering 305",
      "CS201", "Fall2025", "schedule", 0⟩,
   ⟨"DOC005", "MATH200: Linear Algebra. Vectors, matrices, eigenvalues.",
      "MATH200", "Fall2025", "syllabus", 0⟩,
   ⟨"DOC006", "MATH200 meets Mon/Wed 1:00-2:15 PM in Math Building 110",
      "MATH200", "Fall2025", "schedule", 0⟩,
   ⟨"DOC007", "CS101 Assignment 1: Variables and Types. Due Week 2.",
      "CS101", "Fall2025", "assignment", 0⟩,
   ⟨"DOC008", "CS201 Assignment 1: Linked List Implementation. Due Week 3.",
      "CS201", "Fall2025", "assignment", 0⟩,
   ⟨"DOC009", "CS101 Week 5-6: Functions, scope, closures, and recursion basics.",
      "CS101", "Fall2025", "lecture_notes", 0⟩,
   ⟨"DOC010", "Machine learning prerequisites: Linear Algebra (MATH200), Statistics, CS201.",
      "CS401", "Fall2025", "syllabus", 0⟩]

/-- The documents of the store, of which no two have one id. -/
structure DocumentStore where
  documents : List Document
  distinct : (documents.map Document.docId).Nodup

def mockStore : DocumentStore := ⟨mockDocuments, by decide⟩

def filtered (docs : List Document) (courseId semester : Option String) : List Document :=
  let courseId := courseId.getD ""
  let semester := semester.getD ""
  let docs := if courseId = "" then docs else docs.filter fun d => d.courseId = courseId
  if semester = "" then docs else docs.filter fun d => d.semester = semester

variable (b : Builtins) (store : DocumentStore)

def terms (text : String) : List String := (b.split (b.lower text)).dedup

def overlap (queryTerms docTerms : List String) : Nat :=
  (queryTerms.filter fun term => term ∈ docTerms).length

def vectorSearch (query : String) (topK : Nat) (courseId semester : Option String) :
    List Document :=
  let docs := filtered store.documents courseId semester
  let queryTerms := terms b query
  let scored := docs.map fun doc => (doc, overlap queryTerms (terms b doc.content))
  ((sortedDown (fun entry => (entry.2 : Rat)) scored).take topK).map Prod.fst

def keywordSearch (query : String) (courseId semester : Option String) : List Document :=
  let queryLower := b.lower query
  (filtered store.documents courseId semester).filter fun d =>
    let content := b.lower d.content
    contains content queryLower || (b.split queryLower).any fun term => contains content term

def hybridRetrieve (query : String) (courseId semester : Option String) (topK topN : Nat) :
    List Document :=
  reciprocalRankFusion
    [vectorSearch b store query topK courseId semester,
      keywordSearch b store query courseId semester] defaultK topN

end RealityAI.Model.Retrieval
