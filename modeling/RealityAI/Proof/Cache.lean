import RealityAI.Model.Cache

/-!
# What the response cache returns, and what an invalidation removes
-/

namespace RealityAI.Proof.Caching
open Library Model.Caching

/-! ## The course index -/

section
variable {index : CourseIndex} {key key' courseId courseId' : String}

@[simp] theorem keys_insert (keys : List String) :
    CourseIndex.keys (AList.insert courseId' keys index) courseId =
      if courseId = courseId' then keys else CourseIndex.keys index courseId := by
  unfold CourseIndex.keys
  by_cases same : courseId = courseId'
  · subst same
    simp
  · simp [AList.lookup_insert_ne same, same]

@[simp] theorem keys_erase : CourseIndex.keys (AList.erase courseId' index) courseId =
    if courseId = courseId' then [] else CourseIndex.keys index courseId := by
  unfold CourseIndex.keys
  by_cases same : courseId = courseId'
  · subst same
    simp
  · simp [AList.lookup_erase_ne same, same]

theorem mem_add : key' ∈ (CourseIndex.add key index courseId').keys courseId ↔
    key' ∈ index.keys courseId ∨ courseId = courseId' ∧ key' = key := by
  unfold CourseIndex.add
  rw [keys_insert]
  by_cases same : courseId = courseId'
  · subst same
    rw [if_pos rfl]
    by_cases listed : key ∈ index.keys courseId
    · rw [if_pos listed]
      constructor
      · exact .inl
      · rintro (mem | ⟨-, same⟩)
        · exact mem
        · exact same ▸ listed
    · simp [listed]
  · simp [same]

theorem mem_discard : key' ∈ (CourseIndex.discard key index courseId').keys courseId ↔
    key' ∈ index.keys courseId ∧ ¬ (courseId = courseId' ∧ key' = key) := by
  unfold CourseIndex.discard
  cases found : AList.lookup courseId' index with
  | none =>
      have empty : index.keys courseId' = [] := by simp [CourseIndex.keys, found]
      constructor
      · intro mem
        refine ⟨mem, fun same => ?_⟩
        rw [same.1, empty] at mem
        cases mem
      · exact fun both => both.1
  | some keys =>
      have listed : index.keys courseId' = keys := by simp [CourseIndex.keys, found]
      simp only [keys_insert]
      by_cases same : courseId = courseId'
      · subst same
        simp [listed]
      · simp [same]

theorem mem_adds (courseIds : List String) :
    key' ∈ (courseIds.foldl (CourseIndex.add key) index).keys courseId ↔
      key' ∈ index.keys courseId ∨ courseId ∈ courseIds ∧ key' = key := by
  induction courseIds generalizing index with
  | nil => simp
  | cons first courseIds ih =>
      rw [List.foldl_cons, ih, mem_add, List.mem_cons]
      tauto

theorem mem_discards (courseIds : List String) :
    key' ∈ (courseIds.foldl (CourseIndex.discard key) index).keys courseId ↔
      key' ∈ index.keys courseId ∧ ¬ (courseId ∈ courseIds ∧ key' = key) := by
  induction courseIds generalizing index with
  | nil => simp
  | cons first courseIds ih =>
      rw [List.foldl_cons, ih, mem_discard, List.mem_cons]
      tauto

end

/-! ## Removing keys from the store -/

section
variable {store : Store} {key : String}

theorem erase_entries (key : String) (store : Store) :
    (store.erase key).entries = store.entries.filter fun x => x.1 ≠ key := by
  obtain ⟨entries, nodup⟩ := store
  show entries.kerase key = entries.filter fun x => x.1 ≠ key
  induction entries with
  | nil => rfl
  | cons x xs ih =>
      obtain ⟨fresh, rest⟩ := List.nodupKeys_cons.mp nodup
      by_cases same : key = x.1
      · subst same
        rw [List.kerase_cons_eq rfl, List.filter_cons_of_neg (by simp)]
        symm
        apply List.filter_eq_self.mpr
        intro y mem
        have other : y.1 ≠ x.1 := fun same => fresh (same ▸ List.mem_keys_of_mem mem)
        simpa using other
      · rw [List.kerase_cons_ne same, ih rest,
          List.filter_cons_of_pos (by simpa using Ne.symm same)]

theorem length_erase (mem : key ∈ store) :
    (store.erase key).entries.length + 1 = store.entries.length := by
  obtain ⟨b, l₁, l₂, -, whole, erased⟩ := List.exists_of_kerase mem
  show (store.entries.kerase key).length + 1 = store.entries.length
  rw [erased, whole]
  simp only [List.length_append, List.length_cons]
  omega

/-- Removing a key that is not there changes nothing, so each key is erased in turn. -/
theorem removeKeys_cons (key : String) (keys : List String) (store : Store) :
    (ResponseCache.removeKeys (key :: keys) store).2 =
      (ResponseCache.removeKeys keys (store.erase key)).2 := by
  rw [ResponseCache.removeKeys]
  by_cases mem : key ∈ store
  · rw [if_pos mem]
  · have absent : store.erase key = store := AList.ext (List.kerase_of_notMem_keys mem)
    rw [if_neg mem, absent]

theorem removeKeys_entries (keys : List String) (store : Store) :
    (ResponseCache.removeKeys keys store).2.entries = store.entries.filter fun x => x.1 ∉ keys := by
  induction keys generalizing store with
  | nil => simp [ResponseCache.removeKeys]
  | cons key keys ih =>
      rw [removeKeys_cons, ih, erase_entries, List.filter_filter]
      apply List.filter_congr
      intro x _
      simp [Bool.and_comm]

theorem removeKeys_count (keys : List String) (store : Store) :
    (ResponseCache.removeKeys keys store).1 + (ResponseCache.removeKeys keys store).2.entries.length =
      store.entries.length := by
  induction keys generalizing store with
  | nil => simp [ResponseCache.removeKeys]
  | cons key keys ih =>
      rw [ResponseCache.removeKeys]
      by_cases mem : key ∈ store
      · rw [if_pos mem, ← length_erase mem, ← ih (store.erase key)]
        dsimp only
        omega
      · rw [if_neg mem]
        exact ih store

theorem removeKeys_number (keys : List String) (store : Store) :
    (ResponseCache.removeKeys keys store).1 = store.entries.countP fun x => x.1 ∈ keys := by
  have whole := removeKeys_count keys store
  have split := List.length_eq_countP_add_countP (fun x : Sigma _ => decide (x.1 ∈ keys))
    (l := store.entries)
  rw [removeKeys_entries, ← List.countP_eq_length_filter] at whole
  simp only [decide_not, Bool.decide_eq_true] at whole split
  omega

theorem removeKeys_lookup (keys : List String) (store : Store) (key : String) :
    (ResponseCache.removeKeys keys store).2.lookup key =
      if key ∈ keys then none else store.lookup key := by
  induction keys generalizing store with
  | nil => simp [ResponseCache.removeKeys]
  | cons first keys ih =>
      rw [removeKeys_cons, ih]
      by_cases same : key = first
      · subst same
        simp
      · simp [AList.lookup_erase_ne same, same]

end

/-! ## The index covers the store -/

def Covers (c : ResponseCache) : Prop :=
  ∀ key entry expiresAt, c.store.lookup key = some (entry, expiresAt) →
    ∀ courseId ∈ entry.courseIds, key ∈ c.courseIndex.keys courseId

/-- Calls after which an entry is no longer what the cache should return. -/
def Stales (key : String) (entry : CacheEntry) : CacheCommand → Prop
  | .get _ _ => False
  | .set _ key' _ => key' = key
  | .invalidateCourse courseId => courseId ∈ entry.courseIds
  | .flush => True

section
variable {c : ResponseCache} {command : CacheCommand} {key : String} {entry : CacheEntry}
  {expiresAt : Float}

theorem get_cases (c : ResponseCache) (now : Float) (key : String) :
    (c.get now key).2 = c ∨
      ∃ entry expiresAt, c.store.lookup key = some (entry, expiresAt) ∧
        (c.get now key).2 = c.evict key entry := by
  unfold ResponseCache.get
  cases found : c.store.lookup key with
  | none => exact .inl rfl
  | some pair =>
      obtain ⟨entry, expiresAt⟩ := pair
      dsimp only
      split
      · exact .inr ⟨entry, expiresAt, rfl, rfl⟩
      · exact .inl rfl

theorem evict_lookup {key' : String} {entry' : CacheEntry} {pair : CacheEntry × Float}
    (after : (c.evict key' entry').store.lookup key = some pair) :
    key ≠ key' ∧ c.store.lookup key = some pair := by
  have erased : (c.store.erase key').lookup key = some pair := after
  by_cases same : key = key'
  · rw [same, AList.lookup_erase] at erased
    cases erased
  · rw [AList.lookup_erase_ne same] at erased
    exact ⟨same, erased⟩

theorem get_lookup {now : Float} {key' : String} {pair : CacheEntry × Float}
    (after : (c.get now key').2.store.lookup key = some pair) : c.store.lookup key = some pair := by
  rcases get_cases c now key' with same | ⟨entry', expiresAt', -, evicted⟩
  · rwa [same] at after
  · rw [evicted] at after
    exact (evict_lookup after).2

theorem lookup_step (covers : Covers c)
    (after : (cache.step c command).1.store.lookup key = some (entry, expiresAt)) :
    (∃ now, command = .set now key entry ∧ expiresAt = now + c.ttl) ∨
      c.store.lookup key = some (entry, expiresAt) ∧ ¬ Stales key entry command := by
  cases command with
  | get now key' => exact .inr ⟨get_lookup after, id⟩
  | set now key' entry' =>
      have inserted : (c.store.insert key' (entry', now + c.ttl)).lookup key =
          some (entry, expiresAt) := after
      by_cases same : key = key'
      · subst same
        rw [AList.lookup_insert] at inserted
        cases inserted
        exact .inl ⟨now, rfl, rfl⟩
      · rw [AList.lookup_insert_ne same] at inserted
        exact .inr ⟨inserted, fun stale => same stale.symm⟩
  | invalidateCourse courseId =>
      have removed : (ResponseCache.removeKeys (c.courseIndex.keys courseId) c.store).2.lookup key =
          some (entry, expiresAt) := after
      rw [removeKeys_lookup] at removed
      split at removed
      · cases removed
      · rename_i unlisted
        exact .inr ⟨removed, fun stale => unlisted (covers _ _ _ removed courseId stale)⟩
  | flush => cases after

theorem keys_step {courseId : String}
    (after : key ∈ (cache.step c command).1.courseIndex.keys courseId) :
    key ∈ c.courseIndex.keys courseId ∨
      ∃ now entry, command = .set now key entry ∧ courseId ∈ entry.courseIds := by
  cases command with
  | get now key' =>
      have got : key ∈ (c.get now key').2.courseIndex.keys courseId := after
      rcases get_cases c now key' with same | ⟨entry, expiresAt, -, evicted⟩
      · exact .inl (same ▸ got)
      · rw [evicted] at got
        exact .inl ((mem_discards entry.courseIds).mp got).1
  | set now key' entry =>
      rcases (mem_adds entry.courseIds).mp after with before | ⟨mem, same⟩
      · exact .inl before
      · exact .inr ⟨now, entry, same ▸ rfl, mem⟩
  | invalidateCourse courseId' =>
      have erased : key ∈ CourseIndex.keys (AList.erase courseId' c.courseIndex) courseId := after
      rw [keys_erase] at erased
      split at erased
      · cases erased
      · exact .inl erased
  | flush => cases after

theorem covers_step (covers : Covers c) : Covers (cache.step c command).1 := by
  intro key entry expiresAt after courseId mem
  cases command with
  | get now key' =>
      have listed := covers key entry expiresAt (get_lookup after) courseId mem
      show key ∈ (c.get now key').2.courseIndex.keys courseId
      rcases get_cases c now key' with same | ⟨entry', expiresAt', -, evicted⟩
      · rwa [same]
      · have kept : (c.evict key' entry').store.lookup key = some (entry, expiresAt) := evicted ▸ after
        rw [evicted]
        exact (mem_discards entry'.courseIds).mpr
          ⟨listed, fun both => (evict_lookup kept).1 both.2⟩
  | set now key' entry' =>
      -- The index only grows here: keys of an overwritten entry stay listed.
      apply (mem_adds entry'.courseIds).mpr
      rcases lookup_step covers after with ⟨now', same, -⟩ | ⟨before, -⟩
      · cases same
        exact .inr ⟨mem, rfl⟩
      · exact .inl (covers key entry expiresAt before courseId mem)
  | invalidateCourse courseId' =>
      show key ∈ CourseIndex.keys (AList.erase courseId' c.courseIndex) courseId
      rcases lookup_step covers after with ⟨now, same, -⟩ | ⟨before, fresh⟩
      · cases same
      · have other : courseId ≠ courseId' := fun same => fresh (same ▸ mem)
        rw [keys_erase, if_neg other]
        exact covers key entry expiresAt before courseId mem
  | flush => cases after

theorem covers_new (ttl : Float) : Covers (.new ttl) := nofun

theorem covers_run (ttl : Float) (cs : List CacheCommand) :
    Covers (cache.run (.new ttl) cs).1 :=
  Machine.run_invariant (fun _ _ _ => covers_step) (cache.along_true _ cs) (covers_new ttl)

end

/-! ## Freshness -/

/-- The last `set` for the key has stored the entry, at a time that counts as recent, and nothing
has made it stale since. -/
def Fresh (recent : Float → Prop) (done : List CacheCommand) (key : String) (entry : CacheEntry) :
    Prop :=
  ∃ before t after, done = before ++ .set t key entry :: after ∧ recent t ∧
    ∀ command ∈ after, ¬ Stales key entry command

structure Recorded (ttl : Float) (done : List CacheCommand) (c : ResponseCache) : Prop where
  lifetime : c.ttl = ttl
  covers : Covers c
  stored : ∀ key entry expiresAt, c.store.lookup key = some (entry, expiresAt) →
    ∃ before t after, done = before ++ .set t key entry :: after ∧ expiresAt = t + ttl ∧
      ∀ command ∈ after, ¬ Stales key entry command

theorem ttl_step (c : ResponseCache) (command : CacheCommand) :
    (cache.step c command).1.ttl = c.ttl := by
  cases command with
  | get now key =>
      show (c.get now key).2.ttl = c.ttl
      rcases get_cases c now key with same | ⟨entry, expiresAt, -, evicted⟩
      · rw [same]
      · rw [evicted]
        rfl
  | set now key entry => rfl
  | invalidateCourse courseId => rfl
  | flush => rfl

theorem recorded_step (ttl : Float) (done : List CacheCommand) (c : ResponseCache)
    (command : CacheCommand) (inv : Recorded ttl done c) :
    Recorded ttl (done ++ [command]) (cache.step c command).1 := by
  refine ⟨(ttl_step c command).trans inv.lifetime, covers_step inv.covers, ?_⟩
  intro key entry expiresAt after
  rcases lookup_step inv.covers after with ⟨now, same, expiry⟩ | ⟨before, fresh⟩
  · subst same
    refine ⟨done, now, [], rfl, ?_, nofun⟩
    rw [expiry, inv.lifetime]
  · obtain ⟨earlier, t, later, split, expiry, kept⟩ := inv.stored key entry expiresAt before
    refine ⟨earlier, t, later ++ [command], by simp [split], expiry, ?_⟩
    intro command' mem
    rcases List.mem_append.mp mem with old | new
    · exact kept command' old
    · cases List.mem_singleton.mp new
      exact fresh

theorem recorded_run (ttl : Float) (cs : List CacheCommand) :
    Recorded ttl cs (cache.run (.new ttl) cs).1 := by
  have start : Recorded ttl [] (.new ttl) := ⟨rfl, covers_new ttl, nofun⟩
  exact Machine.run_history (fun done s command _ => recorded_step ttl done s command)
    (cache.along_true _ cs) start

/-- After any calls, whatever `get` returns is fresh: its lifetime, which ends at a rounded sum, is
not over. -/
theorem cache_fresh (ttl : Float) (done : List CacheCommand) (now : Float) (key : String)
    (entry : CacheEntry)
    (hit : ((cache.run (.new ttl) done).1.get now key).1 = some entry) :
    Fresh (fun t => ¬ t + ttl < now) done key entry := by
  have inv := recorded_run ttl done
  unfold ResponseCache.get at hit
  cases found : (cache.run (.new ttl) done).1.store.lookup key with
  | none =>
      rw [found] at hit
      cases hit
  | some pair =>
      obtain ⟨entry', expiresAt⟩ := pair
      rw [found] at hit
      dsimp only at hit
      split at hit
      · cases hit
      · rename_i inTime
        cases hit
        obtain ⟨before, t, after, split, expiry, fresh⟩ := inv.stored key _ expiresAt found
        rw [expiry] at inTime
        exact ⟨before, t, after, split, inTime, fresh⟩

def syllabus : CacheEntry := ⟨"Chapter 1", [], 0, ["CS101"]⟩

theorem syllabus_fresh : Fresh (fun t => ¬ t + 3600 < 20)
    [.set 10 "k" syllabus, .invalidateCourse "CS201"] "k" syllabus := by
  apply cache_fresh
  decide +kernel

/-! The sum of 0.3 and 3600 is rounded up, and the entry is returned a little late. -/

theorem syllabus_returned_late :
    ((cache.run (.new 3600) [.set 0.3 "k" syllabus]).1.get 3600.3 "k").1 = some syllabus ∧
      ¬ Fresh (fun t => 3600.3 - 3600 ≤ t) [.set 0.3 "k" syllabus] "k" syllabus := by
  constructor
  · decide +kernel
  · rintro ⟨before, t, after, split, inTime, -⟩
    obtain ⟨rfl, same⟩ | ⟨-, ⟨⟩⟩ := List.singleton_eq_append_iff.mp split
    cases same
    revert inTime
    decide

/-! ## Exact invalidation -/

structure Exact (c : ResponseCache) (courseId : String) : Prop where
  kept : ∀ key, (c.invalidateCourse courseId).2.store.lookup key =
    (c.store.lookup key).filter fun x => courseId ∉ x.1.courseIds
  number : (c.invalidateCourse courseId).1 =
    c.store.entries.countP fun x => courseId ∈ x.2.1.courseIds

/-- The index lists a stored key under no course but those of its entry. -/
def Tight (c : ResponseCache) (courseId : String) : Prop :=
  ∀ key entry expiresAt, c.store.lookup key = some (entry, expiresAt) →
    key ∈ c.courseIndex.keys courseId → courseId ∈ entry.courseIds

/-- A key is only set anew if its new entry has every course under which the index lists it. -/
def CoversOld (c : ResponseCache) : CacheCommand → Prop
  | .set _ key entry => ∀ courseId, key ∈ c.courseIndex.keys courseId → courseId ∈ entry.courseIds
  | _ => True

section
variable {c : ResponseCache} {courseId : String}

theorem exact_iff (covers : Covers c) : Exact c courseId ↔ Tight c courseId := by
  have lookup (key : String) : (c.invalidateCourse courseId).2.store.lookup key =
      if key ∈ c.courseIndex.keys courseId then none else c.store.lookup key :=
    removeKeys_lookup _ _ key
  constructor
  · intro exact key entry expiresAt found listed
    have kept := exact.kept key
    rw [lookup, if_pos listed, found] at kept
    by_contra other
    simp [Option.filter, other] at kept
  · intro tight
    have same (key : String) (entry : CacheEntry) (expiresAt : Float)
        (found : c.store.lookup key = some (entry, expiresAt)) :
        key ∈ c.courseIndex.keys courseId ↔ courseId ∈ entry.courseIds :=
      ⟨tight key entry expiresAt found, covers key entry expiresAt found courseId⟩
    constructor
    · intro key
      rw [lookup]
      cases found : c.store.lookup key with
      | none => simp
      | some pair =>
          obtain ⟨entry, expiresAt⟩ := pair
          have iff := same key entry expiresAt found
          by_cases listed : key ∈ c.courseIndex.keys courseId
          · simp [listed, iff.mp listed, Option.filter]
          · simp [listed, mt iff.mpr listed, Option.filter]
    · show (ResponseCache.removeKeys _ _).1 = _
      rw [removeKeys_number]
      apply List.countP_congr
      intro x mem
      have iff := same x.1 x.2.1 x.2.2 (AList.mem_lookup_iff.mpr mem)
      simpa using iff

theorem tight_step {command : CacheCommand} (covers : Covers c) (old : CoversOld c command)
    (tight : ∀ courseId, Tight c courseId) :
    ∀ courseId, Tight (cache.step c command).1 courseId := by
  intro courseId key entry expiresAt after listed
  rcases lookup_step covers after with ⟨now, same, -⟩ | ⟨before, fresh⟩
  · subst same
    rcases (mem_adds entry.courseIds).mp listed with earlier | ⟨mem, -⟩
    · exact old courseId earlier
    · exact mem
  · rcases keys_step listed with earlier | ⟨now, entry', same, -⟩
    · exact tight courseId key entry expiresAt before earlier
    · subst same
      exact absurd rfl fresh

end

/-- Invalidations are exact throughout exactly the runs that never set a key anew while the index
lists it under a course that the new entry lacks. -/
theorem invalidation_exact_iff (ttl : Float) (cs : List CacheCommand) :
    cache.Always (fun c => ∀ courseId, Exact c courseId) (.new ttl) cs ↔
      cache.Along CoversOld (.new ttl) cs := by
  constructor
  · intro exact
    rw [Machine.along_iff]
    intro before command start
    cases command with
    | set now key entry =>
        intro courseId listed
        have after := exact (before ++ [.set now key entry]) start courseId
        have tight := (exact_iff (covers_run ttl _)).mp after
        rw [Machine.run_append] at tight
        apply tight key entry _ (AList.lookup_insert _)
        exact (mem_adds entry.courseIds).mpr (.inl listed)
    | get now key => trivial
    | invalidateCourse courseId => trivial
    | flush => trivial
  · intro old before start courseId
    have both := Machine.run_invariant
      (Q := fun c => Covers c ∧ ∀ courseId, Tight c courseId)
      (fun c command here inv => ⟨covers_step inv.1, tight_step inv.1 here inv.2⟩)
      (old.initial start) ⟨covers_new ttl, nofun⟩
    exact (exact_iff both.1).mpr (both.2 courseId)

/-! A key is set again with an entry of another course. -/

theorem overwritten_key_invalidated : ¬ cache.Always (fun c => ∀ courseId, Exact c courseId)
    (.new 3600) [.set 0 "k" syllabus, .set 1 "k" ⟨"Chapter 2", [], 1, ["CS201"]⟩] := by
  intro exact
  have kept := (exact _ List.prefix_rfl "CS101").kept "k"
  revert kept
  decide

end RealityAI.Proof.Caching
