import Mathlib.Data.List.Basic

/-!
# The latest of overlapping jobs

Jobs overlap, and one flag and one slot stand for the latest of them. A start cancels the job in the
slot and takes it, a finish clears both. That is sound as long as no job finishes beside a later one.
-/

namespace RealityAI.Library

/-- The jobs are in the order of their start, and the slot holds the number of one. -/
structure Latest (α : Type) where
  busy : Bool
  slot : Option Nat
  jobs : List α

namespace Latest

variable {α : Type}

section
variable (running cancelled : α → Prop) (s : Latest α)

def Current (i : Nat) : Prop := i + 1 = s.jobs.length ∧ ∃ job, s.jobs[i]? = some job ∧ running job

def Live (i : Nat) : Prop := ∃ job, s.jobs[i]? = some job ∧ running job ∧ ¬ cancelled job

structure Tracks : Prop where
  busy : s.busy = true ↔ ∃ i, s.Current running i
  slot : ∀ i, s.slot = some i ↔ s.Current running i
  alone : ∀ i j, s.Live running cancelled i → s.Live running cancelled j → i = j

structure Ordered : Prop where
  busy : s.busy = true ↔ ∃ i, s.Current running i
  slot : ∀ i, s.slot = some i ↔ s.Current running i
  overtaken : ∀ i job, s.jobs[i]? = some job → i + 1 < s.jobs.length → running job → cancelled job

end

def start (cancel : α → α) (job : α) (s : Latest α) : Latest α :=
  { busy := true
    slot := some s.jobs.length
    jobs := (match s.slot with
      | some i => s.jobs.modify i cancel
      | none => s.jobs) ++ [job] }

def update (f : α → α) (i : Nat) (s : Latest α) : Latest α := { s with jobs := s.jobs.modify i f }

def finish (close : α → α) (i : Nat) (s : Latest α) : Latest α :=
  { busy := false, slot := none, jobs := s.jobs.modify i close }

variable {running cancelled : α → Prop} {s : Latest α}

theorem Ordered.tracks (ordered : s.Ordered running cancelled) : s.Tracks running cancelled := by
  refine ⟨ordered.busy, ordered.slot, ?_⟩
  have last (i : Nat) (live : s.Live running cancelled i) : i + 1 = s.jobs.length := by
    obtain ⟨job, here, runs, uncancelled⟩ := live
    have bound : i < s.jobs.length := (List.getElem?_eq_some_iff.mp here).1
    by_contra earlier
    exact uncancelled (ordered.overtaken i job here (by omega) runs)
  intro i j live live'
  have first := last i live
  have second := last j live'
  omega

theorem ordered_empty : Ordered running cancelled (⟨false, none, []⟩ : Latest α) where
  busy := by simp [Current]
  slot := by simp [Current]
  overtaken := by simp

section
variable {f : α → α} {i : Nat}
  (runs : ∀ job, s.jobs[i]? = some job → (running (f job) ↔ running job))
include runs

theorem current_update (k : Nat) : (s.update f i).Current running k ↔ s.Current running k := by
  unfold Current update
  rw [List.length_modify, List.getElem?_modify]
  apply and_congr_right
  intro _
  by_cases same : i = k
  · subst same
    cases found : s.jobs[i]? with
    | none => simp
    | some job => simp [runs job found]
  · simp [same]

theorem ordered_update
    (cancels : ∀ job, s.jobs[i]? = some job → cancelled job → cancelled (f job))
    (ordered : s.Ordered running cancelled) : (s.update f i).Ordered running cancelled where
  busy := ordered.busy.trans (exists_congr fun k => (current_update runs k).symm)
  slot k := (ordered.slot k).trans (current_update runs k).symm
  overtaken := by
    intro k job here earlier jobRuns
    unfold update at here earlier
    rw [List.getElem?_modify, Option.map_eq_map, Option.map_eq_some_iff] at here
    obtain ⟨before, found, rfl⟩ := here
    rw [List.length_modify] at earlier
    by_cases same : i = k
    · subst same
      rw [if_pos rfl] at jobRuns ⊢
      have beforeRuns := (runs before found).mp jobRuns
      exact cancels before found (ordered.overtaken i before found earlier beforeRuns)
    · rw [if_neg same] at jobRuns ⊢
      exact ordered.overtaken k before found earlier jobRuns

end

theorem length_start (cancel : α → α) (job : α) (s : Latest α) :
    (s.start cancel job).jobs.length = s.jobs.length + 1 := by
  unfold start
  cases s.slot with
  | none => simp
  | some i => simp

theorem current_start {cancel : α → α} {job : α} (fresh : running job) (i : Nat) :
    (s.start cancel job).Current running i ↔ i = s.jobs.length := by
  unfold Current
  rw [length_start]
  constructor
  · intro current
    have length := current.1
    omega
  · intro same
    subst same
    refine ⟨rfl, job, ?_, fresh⟩
    unfold start
    cases s.slot with
    | none => simp
    | some i => simp

theorem ordered_start {cancel : α → α} {job : α} (fresh : running job)
    (cancels : s.slot ≠ none → ∀ job, cancelled (cancel job))
    (ordered : s.Ordered running cancelled) : (s.start cancel job).Ordered running cancelled where
  busy := by
    constructor
    · intro _
      exact ⟨_, (current_start fresh _).mpr rfl⟩
    · intro _
      rfl
  slot i := by
    rw [current_start fresh, start, Option.some_inj, eq_comm]
  overtaken := by
    intro i other here earlier otherRuns
    rw [length_start] at earlier
    have bound : i < s.jobs.length := by omega
    cases slot : s.slot with
    | none =>
        have found : s.jobs[i]? = some other := by
          rw [start, slot] at here
          rwa [List.getElem?_append_left bound] at here
        apply ordered.overtaken i other found ?_ otherRuns
        -- the latest job is in the slot if it runs
        by_contra last
        have current : s.Current running i := ⟨by omega, other, found, otherRuns⟩
        rw [(ordered.slot i).mpr current] at slot
        cases slot
    | some k =>
        have length : k + 1 = s.jobs.length := ((ordered.slot k).mp slot).1
        have found : (s.jobs.modify k cancel)[i]? = some other := by
          rw [start, slot] at here
          rwa [List.getElem?_append_left (by rwa [List.length_modify])] at here
        rw [List.getElem?_modify, Option.map_eq_map, Option.map_eq_some_iff] at found
        obtain ⟨before, at_i, rfl⟩ := found
        by_cases same : k = i
        · rw [if_pos same]
          exact cancels (slot ▸ Option.some_ne_none k) before
        · rw [if_neg same] at otherRuns ⊢
          exact ordered.overtaken i before at_i (by omega) otherRuns

section
variable {close : α → α} {i : Nat}

theorem current_finish (closes : ∀ job, ¬ running (close job)) (k : Nat) :
    (s.finish close i).Current running k ↔ s.Current running k ∧ k ≠ i := by
  unfold Current finish
  rw [List.length_modify, List.getElem?_modify]
  cases s.jobs[k]? with
  | none => simp
  | some job =>
      by_cases same : i = k
      · simp [same, closes]
      · simp [same, Ne.symm same]

theorem ordered_finish (closes : ∀ job, ¬ running (close job))
    (last : ∀ k, s.Current running k → k = i) (ordered : s.Ordered running cancelled) :
    (s.finish close i).Ordered running cancelled := by
  have idle (k : Nat) : ¬ (s.finish close i).Current running k := by
    rw [current_finish closes]
    intro ⟨current, other⟩
    exact other (last k current)
  refine ⟨?_, ?_, ?_⟩
  · constructor
    · intro busy
      cases busy
    · intro ⟨k, current⟩
      exact absurd current (idle k)
  · intro k
    constructor
    · intro slot
      cases slot
    · intro current
      exact absurd current (idle k)
  · intro k job here earlier jobRuns
    unfold finish at here earlier
    rw [List.getElem?_modify, Option.map_eq_map, Option.map_eq_some_iff] at here
    obtain ⟨before, found, rfl⟩ := here
    rw [List.length_modify] at earlier
    by_cases same : i = k
    · rw [if_pos same] at jobRuns
      exact absurd jobRuns (closes before)
    · rw [if_neg same] at jobRuns ⊢
      exact ordered.overtaken k before found earlier jobRuns

/-- Beside a later job the finish leaves the flag down while that one runs. -/
theorem last_of_tracks_finish (closes : ∀ job, ¬ running (close job))
    (tracks : (s.finish close i).Tracks running cancelled) (k : Nat) (current : s.Current running k) :
    k = i := by
  by_contra other
  have busy := tracks.busy.mpr ⟨k, (current_finish closes k).mpr ⟨current, other⟩⟩
  cases busy

end

end Latest

end RealityAI.Library
