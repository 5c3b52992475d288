import RealityAI.Library.Run
import RealityAI.Python.Text
import Mathlib.Data.List.AList

/-!
# `caching/response_cache.py`

A set is a list without repetition, and a missing set of the index is empty.
-/

namespace RealityAI.Model.Caching
open Library

structure CacheEntry where
  response : String
  sources : List String := []
  timestamp : Float := 0
  courseIds : List String := []
  deriving DecidableEq, Repr

abbrev Store := AList fun _ : String => CacheEntry × Float

abbrev CourseIndex := AList fun _ : String => List String

namespace CourseIndex

def keys (index : CourseIndex) (courseId : String) : List String :=
  (AList.lookup courseId index).getD []

def add (key : String) (index : CourseIndex) (courseId : String) : CourseIndex :=
  let keys := keys index courseId
  AList.insert courseId (if key ∈ keys then keys else keys ++ [key]) index

def discard (key : String) (index : CourseIndex) (courseId : String) : CourseIndex :=
  match AList.lookup courseId index with
  | none => index
  | some keys => AList.insert courseId (keys.filter fun k => k ≠ key) index

end CourseIndex

structure ResponseCache where
  store : Store
  ttl : Float
  courseIndex : CourseIndex

namespace ResponseCache
open Python

section
variable (it : Interpreter)

def normalized (query : String) : String := it.lower (it.strip query)

def joined (courseIds : Option (List String)) : String :=
  match courseIds.getD [] with
  | [] => ""
  | ids => ",".intercalate (sorted ids)

def raw (query : String) (courseIds : Option (List String)) (semester : Option String) : String :=
  normalized it query ++ "|" ++ joined courseIds ++ "|" ++ semester.getD ""

def makeKey (query : String) (courseIds : Option (List String)) (semester : Option String) : String :=
  String.ofList ((it.sha256Hex (raw it query courseIds semester)).toList.take 32)

end

def new (ttl : Float) : ResponseCache := ⟨∅, ttl, ∅⟩

def evict (c : ResponseCache) (key : String) (entry : CacheEntry) : ResponseCache :=
  { c with
    store := c.store.erase key
    courseIndex := entry.courseIds.foldl (CourseIndex.discard key) c.courseIndex }

def get (c : ResponseCache) (now : Float) (key : String) : Option CacheEntry × ResponseCache :=
  match c.store.lookup key with
  | none => (none, c)
  | some (entry, expiresAt) =>
      if expiresAt < now then (none, c.evict key entry) else (some entry, c)

def set (c : ResponseCache) (now : Float) (key : String) (entry : CacheEntry) : ResponseCache :=
  { c with
    store := c.store.insert key (entry, now + c.ttl)
    courseIndex := entry.courseIds.foldl (CourseIndex.add key) c.courseIndex }

def removeKeys : List String → Store → Nat × Store
  | [], store => (0, store)
  | key :: keys, store =>
      if key ∈ store then
        let (count, store) := removeKeys keys (store.erase key)
        (count + 1, store)
      else removeKeys keys store

def invalidateCourse (c : ResponseCache) (courseId : String) : Nat × ResponseCache :=
  let (count, store) := removeKeys (c.courseIndex.keys courseId) c.store
  (count, { c with store, courseIndex := AList.erase courseId c.courseIndex })

def flush (c : ResponseCache) : Nat × ResponseCache :=
  (c.store.entries.length, { c with store := ∅, courseIndex := ∅ })

end ResponseCache

inductive CacheCommand where
  | get (now : Float) (key : String)
  | set (now : Float) (key : String) (entry : CacheEntry)
  | invalidateCourse (courseId : String)
  | flush

inductive CacheAnswer where
  | entry (found : Option CacheEntry)
  | done
  | count (n : Nat)

def takeCacheCommand (c : ResponseCache) : CacheCommand → ResponseCache × List CacheAnswer
  | .get now key =>
      let (found, c) := c.get now key
      (c, [.entry found])
  | .set now key entry => (c.set now key entry, [.done])
  | .invalidateCourse courseId =>
      let (n, c) := c.invalidateCourse courseId
      (c, [.count n])
  | .flush =>
      let (n, c) := c.flush
      (c, [.count n])

def cache : Machine ResponseCache CacheCommand CacheAnswer := ⟨takeCacheCommand⟩

end RealityAI.Model.Caching
