import RealityAI.Library.Separated
import RealityAI.Model.Cache

namespace RealityAI.Proof.CacheKey
open Library Python Model.Caching.ResponseCache

structure Request where
  query : String
  courseIds : Option (List String) := none
  semester : Option String := none

namespace Request

def ids (r : Request) : List String := r.courseIds.getD []

def key (it : Interpreter) (r : Request) : String := makeKey it r.query r.courseIds r.semester

def text (it : Interpreter) (r : Request) : String := raw it r.query r.courseIds r.semester

def fields (it : Interpreter) (r : Request) : List (List Char) :=
  [normalized it r.query, joined r.courseIds, r.semester.getD ""].map String.toList

/-- The pieces of the sorted course ids between commas; no ids count as an empty one. -/
def idPieces (r : Request) : List (List Char) :=
  match r.ids with
  | [] => [[]]
  | ids => (sorted ids).flatMap fun id => id.toList.splitOn ','

end Request

section
variable (it : Interpreter) (r r' : Request)

structure Same : Prop where
  query : normalized it r.query = normalized it r'.query
  courses : r.ids.Perm r'.ids
  semester : r.semester.getD "" = r'.semester.getD ""

/-- The same pieces between bars, in the same order, divided into other fields. -/
structure Regrouped : Prop where
  pieces : ((r.fields it).flatMap fun field => field.splitOn '|') =
    (r'.fields it).flatMap fun field => field.splitOn '|'
  differ : r.fields it ≠ r'.fields it

/-- The same pieces between commas, in the same order, divided into other course ids. -/
structure Recut : Prop where
  query : normalized it r.query = normalized it r'.query
  semester : r.semester.getD "" = r'.semester.getD ""
  pieces : r.idPieces = r'.idPieces
  differ : ¬ r.ids.Perm r'.ids

variable {it r r'}

theorem text_eq (r : Request) : (r.text it).toList = ['|'].intercalate (r.fields it) := by
  simp [Request.text, raw, Request.fields, List.intercalate_cons_cons]

theorem text_eq_iff : r.text it = r'.text it ↔
    ((r.fields it).flatMap fun field => field.splitOn '|') =
      (r'.fields it).flatMap fun field => field.splitOn '|' := by
  rw [← String.toList_inj, text_eq, text_eq]
  exact intercalate_eq_iff (List.cons_ne_nil _ _) (List.cons_ne_nil _ _)

theorem fields_eq_iff : r.fields it = r'.fields it ↔
    normalized it r.query = normalized it r'.query ∧ joined r.courseIds = joined r'.courseIds ∧
      r.semester.getD "" = r'.semester.getD "" := by
  simp [Request.fields, String.toList_inj]

theorem sorted_nil_iff {ids : List String} : sorted ids = [] ↔ ids = [] := by
  rw [← List.length_eq_zero_iff, (sorted_perm ids).length_eq, List.length_eq_zero_iff]

theorem joined_eq (r : Request) : (joined r.courseIds).toList.splitOn ',' = r.idPieces := by
  unfold joined Request.idPieces Request.ids
  cases r.courseIds.getD [] with
  | nil => rfl
  | cons id ids =>
      dsimp only
      have nonempty : (sorted (id :: ids)).map String.toList ≠ [] := by
        rw [ne_eq, List.map_eq_nil_iff, sorted_nil_iff]
        exact List.cons_ne_nil _ _
      have texts : (",".intercalate (sorted (id :: ids))).toList =
          [','].intercalate ((sorted (id :: ids)).map String.toList) := by
        rw [String.toList_intercalate]
        rfl
      rw [texts, splitOn_intercalate_eq nonempty, List.flatMap_map]

theorem joined_eq_iff : joined r.courseIds = joined r'.courseIds ↔ r.idPieces = r'.idPieces := by
  rw [← String.toList_inj, ← joined_eq, ← joined_eq]
  exact splitOn_inj.symm

theorem idPieces_perm (perm : r.ids.Perm r'.ids) : r.idPieces = r'.idPieces := by
  unfold Request.idPieces
  cases first : r.ids with
  | nil =>
      rw [first] at perm
      rw [List.nil_perm.mp perm]
  | cons id ids =>
      rw [first] at perm
      cases second : r'.ids with
      | nil =>
          rw [second] at perm
          cases List.perm_nil.mp perm
      | cons id' ids' =>
          rw [second] at perm
          dsimp only
          rw [sorted_congr perm]

theorem Same.fields (same : Same it r r') : r.fields it = r'.fields it :=
  fields_eq_iff.mpr ⟨same.query, joined_eq_iff.mpr (idPieces_perm same.courses), same.semester⟩

theorem key_of_text (same : r.text it = r'.text it) : r.key it = r'.key it :=
  congrArg (fun raw => String.ofList ((it.sha256Hex raw).toList.take 32)) same

end

/-- Two requests without a collision of their digests have one key exactly if they are the same, but
for those that differ only in where bars or commas divide them. -/
theorem key_separates_iff (it : Interpreter) (r r' : Request)
    (distinct : r.key it = r'.key it → r.text it = r'.text it) :
    (r.key it = r'.key it ↔ Same it r r') ↔ ¬ Regrouped it r r' ∧ ¬ Recut it r r' := by
  have keys : r.key it = r'.key it ↔ r.text it = r'.text it := ⟨distinct, key_of_text⟩
  rw [keys]
  constructor
  · intro separates
    constructor
    · intro regrouped
      exact regrouped.differ (separates.mp (text_eq_iff.mpr regrouped.pieces)).fields
    · intro recut
      have fields := fields_eq_iff.mpr ⟨recut.query, joined_eq_iff.mpr recut.pieces, recut.semester⟩
      have text : r.text it = r'.text it := text_eq_iff.mpr (by rw [fields])
      exact recut.differ (separates.mp text).courses
  · intro ⟨ungrouped, uncut⟩
    constructor
    · intro text
      have fields : r.fields it = r'.fields it := by
        by_contra differ
        exact ungrouped ⟨text_eq_iff.mp text, differ⟩
      obtain ⟨query, courses, semester⟩ := fields_eq_iff.mp fields
      refine ⟨query, ?_, semester⟩
      by_contra differ
      exact uncut ⟨query, semester, joined_eq_iff.mp courses, differ⟩
    · intro same
      exact text_eq_iff.mpr (by rw [same.fields])

def digests : Interpreter :=
  { Interpreter.ascii with
    sha256Hex := fun raw =>
      if raw = "cs101||" then "26cbe0e268b5765e0769afc759919bcd2d283a6f2d60ceb671b3e818c78422f3"
      else if raw = "cs201||" then
        "a08fc982861acb60fa3f8b6c2f3a024906367bbf39cca307fb6d1b5aae76a468"
      else "975fa13a1272c134746e3115e4cd62be01faad65dbd9b1420df638c58c0d3e3c" }

theorem two_courses_separated :
    ((Request.key digests ⟨"CS101 ", none, none⟩ = Request.key digests ⟨"CS201", none, none⟩ ↔
        Same digests ⟨"CS101 ", none, none⟩ ⟨"CS201", none, none⟩) ↔
      ¬ Regrouped digests ⟨"CS101 ", none, none⟩ ⟨"CS201", none, none⟩ ∧
        ¬ Recut digests ⟨"CS101 ", none, none⟩ ⟨"CS201", none, none⟩) := by
  have apart : Request.key digests ⟨"CS101 ", none, none⟩ ≠
      Request.key digests ⟨"CS201", none, none⟩ := by
    decide +kernel
  exact key_separates_iff digests _ _ fun same => absurd same apart

theorem bar_shares_key :
    Request.key digests ⟨"a|b", none, none⟩ = Request.key digests ⟨"a", some ["b|"], none⟩ ∧
      ¬ Same digests ⟨"a|b", none, none⟩ ⟨"a", some ["b|"], none⟩ := by
  constructor
  · decide +kernel
  · intro same
    exact absurd same.courses.length_eq (by decide)

structure Plain (it : Interpreter) (r : Request) : Prop where
  fields : ∀ field ∈ r.fields it, '|' ∉ field
  ids : ∀ id ∈ r.ids, ',' ∉ id.toList ∧ id ≠ ""

theorem flatMap_splitOn {sep : Char} {fields : List (List Char)} (apart : ∀ field ∈ fields, sep ∉ field) :
    (fields.flatMap fun field => field.splitOn sep) = fields := by
  induction fields with
  | nil => rfl
  | cons field fields ih =>
      obtain ⟨here, later⟩ := List.forall_mem_cons.mp apart
      rw [List.flatMap_cons, List.splitOn_eq_singleton here, ih later]
      rfl

theorem idPieces_plain {r : Request} (ids : ∀ id ∈ r.ids, ',' ∉ id.toList ∧ id ≠ "") :
    r.idPieces = if r.ids = [] then [[]] else (sorted r.ids).map String.toList := by
  unfold Request.idPieces
  cases same : r.ids with
  | nil => rfl
  | cons id rest =>
      rw [same] at ids
      dsimp only
      rw [if_neg (List.cons_ne_nil _ _), ← List.flatMap_map String.toList fun w => w.splitOn ',']
      apply flatMap_splitOn
      intro w mem
      obtain ⟨id', listed, rfl⟩ := List.mem_map.mp mem
      exact (ids id' ((sorted_perm _).mem_iff.mp listed)).1

theorem empty_of_pieces {ids : List String} (same : [[]] = (sorted ids).map String.toList) :
    "" ∈ ids := by
  have empty : [] ∈ (sorted ids).map String.toList := same ▸ List.mem_singleton_self _
  obtain ⟨id, mem, nil⟩ := List.mem_map.mp empty
  rw [← String.toList_eq_nil_iff.mp nil]
  exact (sorted_perm ids).mem_iff.mp mem

/-- Requests without bars, commas and empty course ids never share a key by their separators. -/
theorem plain_separates {it : Interpreter} {r r' : Request} (plain : Plain it r)
    (plain' : Plain it r') : ¬ Regrouped it r r' ∧ ¬ Recut it r r' := by
  constructor
  · intro regrouped
    apply regrouped.differ
    have pieces := regrouped.pieces
    rwa [flatMap_splitOn plain.fields, flatMap_splitOn plain'.fields] at pieces
  · intro recut
    have pieces := recut.pieces
    rw [idPieces_plain plain.ids, idPieces_plain plain'.ids] at pieces
    apply recut.differ
    by_cases none : r.ids = [] <;> by_cases none' : r'.ids = []
    · rw [none, none']
    · rw [if_pos none, if_neg none'] at pieces
      exact absurd rfl (plain'.ids "" (empty_of_pieces pieces)).2
    · rw [if_neg none, if_pos none'] at pieces
      exact absurd rfl (plain.ids "" (empty_of_pieces pieces.symm)).2
    · rw [if_neg none, if_neg none'] at pieces
      have same : sorted r.ids = sorted r'.ids :=
        List.map_injective_iff.mpr (fun _ _ => String.toList_inj.mp) pieces
      exact (sorted_perm r.ids).symm.trans (same ▸ sorted_perm r'.ids)

end RealityAI.Proof.CacheKey
