import RealityAI.Model.RateLimit
import Mathlib.Data.Rat.Cast.Order
import Mathlib.Data.Real.Basic

namespace RealityAI.Proof.RateWindow
open Library Model.RateLimit

def admittedTo (key : String) (log : List Answer) : List Rat :=
  (log.filter fun a => a.key = key && !a.limited).map Answer.time

def counted (now : Rat) (key : String) (log : List Answer) : List Rat :=
  (admittedTo key log).filter fun t => now - windowSeconds < t ∧ t ≤ now

def ruled (rpm : Int) (log : List Answer) (call : Rat × String) : Answer :=
  ⟨call.1, call.2, rpm ≤ (counted call.1 call.2 log).length⟩

def ruleFrom (rpm : Int) (log : List Answer) (calls : List (Rat × String)) : List Answer :=
  calls.foldl (fun log call => log ++ [ruled rpm log call]) log

section
variable {rpm : Int} {log : List Answer} {now : Rat} {key : String}

theorem admittedTo_append (key : String) (log later : List Answer) :
    admittedTo key (log ++ later) = admittedTo key log ++ admittedTo key later := by
  unfold admittedTo
  rw [List.filter_append, List.map_append]

theorem admittedTo_single (key : String) (a : Answer) :
    admittedTo key [a] = if a.key = key ∧ a.limited = false then [a.time] else [] := by
  unfold admittedTo
  by_cases same : a.key = key <;> cases limited : a.limited <;> simp [same, limited]

theorem counted_eq (past : ∀ a ∈ log, a.time ≤ now) :
    counted now key log = recent windowSeconds now (admittedTo key log) := by
  apply List.filter_congr
  intro t mem
  obtain ⟨a, listed, rfl⟩ := List.mem_map.mp mem
  rw [decide_eq_decide]
  exact and_iff_left (past a (List.mem_filter.mp listed).1)

def Agrees (log : List Answer) (requests : Requests) : Prop :=
  ∀ key now, (∀ a ∈ log, a.time ≤ now) →
    recent windowSeconds now (requests key) = recent windowSeconds now (admittedTo key log)

theorem agrees_step {requests : Requests} (agrees : Agrees log requests)
    (past : ∀ a ∈ log, a.time ≤ now) :
    (isRateLimited rpm requests now key).1 = (ruled rpm log (now, key)).limited ∧
      Agrees (log ++ [ruled rpm log (now, key)]) (isRateLimited rpm requests now key).2 := by
  have kept := agrees key now past
  rw [← counted_eq past] at kept
  unfold isRateLimited ruled
  rw [kept]
  dsimp only
  by_cases full : rpm ≤ (counted now key log).length
  · rw [if_pos full, decide_eq_true full]
    refine ⟨rfl, fun key' later after => ?_⟩
    have reached : now ≤ later := after ⟨now, key, true⟩ (by simp)
    have before := agrees key' later fun a mem => after a (List.mem_append_left _ mem)
    rw [admittedTo_append, admittedTo_single, if_neg (by simp), List.append_nil, ← before]
    dsimp only
    by_cases same : key' = key
    · -- A rejected call still prunes the notes of its key.
      subst same
      rw [Function.update_self, ← kept, recent_recent reached]
    · rw [Function.update_of_ne same]
  · rw [if_neg full, decide_eq_false full]
    refine ⟨rfl, fun key' later after => ?_⟩
    have reached : now ≤ later := after ⟨now, key, false⟩ (by simp)
    have before := agrees key' later fun a mem => after a (List.mem_append_left _ mem)
    rw [admittedTo_append, admittedTo_single, recent_append, ← before]
    dsimp only
    by_cases same : key' = key
    · subst same
      rw [Function.update_self, recent_append, ← kept, recent_recent reached, if_pos ⟨rfl, rfl⟩]
    · rw [Function.update_of_ne same, if_neg fun here => same here.1.symm]
      simp [recent]

theorem run_follows {calls : List (Rat × String)} {requests : Requests}
    (sorted : calls.Pairwise fun x y => x.1 ≤ y.1) (agrees : Agrees log requests)
    (past : ∀ a ∈ log, ∀ call ∈ calls, a.time ≤ call.1) :
    log ++ ((limiter rpm).run requests calls).2 = ruleFrom rpm log calls := by
  induction calls generalizing log requests with
  | nil => exact List.append_nil log
  | cons call calls ih =>
      obtain ⟨now, key⟩ := call
      obtain ⟨later, sorted⟩ := List.pairwise_cons.mp sorted
      obtain ⟨answer, agrees'⟩ := @agrees_step rpm log now key requests agrees fun a mem =>
        past a mem _ List.mem_cons_self
      have stepped : (limiter rpm).step requests (now, key) =
          ((isRateLimited rpm requests now key).2, [ruled rpm log (now, key)]) := by
        show (_, [Answer.mk now key (isRateLimited rpm requests now key).1]) = _
        rw [answer]
        rfl
      rw [Machine.run, stepped, ← List.append_assoc]
      apply ih sorted agrees'
      intro a mem call member
      rcases List.mem_append.mp mem with old | new
      · exact past a old call (List.mem_cons_of_mem _ member)
      · rw [List.mem_singleton.mp new]
        exact later call member

theorem answers_eq {calls : List (Rat × String)} (sorted : calls.Pairwise fun x y => x.1 ≤ y.1) :
    answers rpm calls = ruleFrom rpm [] calls := by
  have agrees : Agrees [] fun _ => [] := fun _ _ _ => rfl
  exact run_follows sorted agrees nofun

theorem ruleFrom_cons (log : List Answer) (call : Rat × String) (calls : List (Rat × String)) :
    ruleFrom rpm log (call :: calls) = ruleFrom rpm (log ++ [ruled rpm log call]) calls := rfl

theorem ruleFrom_append (log : List Answer) (before after : List (Rat × String)) :
    ruleFrom rpm log (before ++ after) = ruleFrom rpm (ruleFrom rpm log before) after :=
  List.foldl_append ..

theorem ruleFrom_extends (log : List Answer) (calls : List (Rat × String)) :
    ∃ rest, ruleFrom rpm log calls = log ++ rest := by
  induction calls generalizing log with
  | nil => exact ⟨[], (List.append_nil log).symm⟩
  | cons call calls ih =>
      obtain ⟨rest, extended⟩ := ih (log ++ [ruled rpm log call])
      refine ⟨ruled rpm log call :: rest, ?_⟩
      rw [ruleFrom_cons, extended, List.append_assoc]
      rfl

theorem ruleFrom_same {log' : List Answer} (calls : List (Rat × String))
    (same : ∀ key, admittedTo key log = admittedTo key log') {rest : List Answer}
    (ran : ruleFrom rpm log calls = log ++ rest) : ruleFrom rpm log' calls = log' ++ rest := by
  induction calls generalizing log log' rest with
  | nil =>
      have none : rest = [] := List.self_eq_append_right.mp ran
      rw [none, List.append_nil]
      rfl
  | cons call calls ih =>
      have agreed : ruled rpm log' call = ruled rpm log call := by
        unfold ruled counted
        rw [same]
      obtain ⟨rest', extended⟩ := @ruleFrom_extends rpm (log ++ [ruled rpm log call]) calls
      have split : rest = ruled rpm log call :: rest' := by
        rw [ruleFrom_cons, extended, List.append_assoc] at ran
        exact (List.append_cancel_left ran).symm
      have same' (key : String) : admittedTo key (log ++ [ruled rpm log call]) =
          admittedTo key (log' ++ [ruled rpm log call]) := by
        rw [admittedTo_append, admittedTo_append, same]
      rw [ruleFrom_cons, agreed, ih same' extended, split, List.append_assoc]
      rfl

theorem admittedTo_filter (log : List Answer) :
    admittedTo key (log.filter fun a => a.key = key) = admittedTo key log := by
  unfold admittedTo
  rw [List.filter_filter]
  congr 1
  apply List.filter_congr
  intro a _
  cases a.limited <;> simp

theorem ruleFrom_key (log : List Answer) (calls : List (Rat × String)) :
    (ruleFrom rpm log calls).filter (fun a => a.key = key) =
      ruleFrom rpm (log.filter fun a => a.key = key) (calls.filter fun call => call.2 = key) := by
  induction calls generalizing log with
  | nil => rfl
  | cons call calls ih =>
      rw [ruleFrom_cons, ih, List.filter_append]
      by_cases here : call.2 = key
      · have agreed : ruled rpm (log.filter fun a => a.key = key) call = ruled rpm log call := by
          unfold ruled counted
          rw [here, admittedTo_filter]
        have kept : [ruled rpm log call].filter (fun a => a.key = key) = [ruled rpm log call] := by
          simp [ruled, here]
        rw [kept, List.filter_cons, if_pos (decide_eq_true here), ruleFrom_cons, agreed]
      · have dropped : [ruled rpm log call].filter (fun a => a.key = key) = [] := by
          simp [ruled, here]
        rw [dropped, List.filter_cons, if_neg (by simpa using here), List.append_nil]

theorem ruled_times {calls : List (Rat × String)} :
    ∀ a ∈ ruleFrom rpm log calls, a ∈ log ∨ ∃ call ∈ calls, a.time = call.1 := by
  induction calls generalizing log with
  | nil => exact fun a mem => Or.inl mem
  | cons call calls ih =>
      intro a mem
      rcases ih a mem with old | ⟨call', listed, same⟩
      · rcases List.mem_append.mp old with old | new
        · exact Or.inl old
        · rw [List.mem_singleton.mp new]
          exact Or.inr ⟨call, List.mem_cons_self, rfl⟩
      · exact Or.inr ⟨call', List.mem_cons_of_mem _ listed, same⟩

theorem spaced_rule {calls : List (Rat × String)} (sorted : calls.Pairwise fun x y => x.1 ≤ y.1)
    (key : String) :
    Spaced rpm.toNat windowSeconds (admittedTo key (ruleFrom rpm [] calls)) := by
  induction calls using List.reverseRecOn with
  | nil => exact fun earlier t start => by simp [ruleFrom, admittedTo] at start
  | append_singleton calls call ih =>
      obtain ⟨sorted, -, past⟩ := List.pairwise_append.mp sorted
      have spaced := ih sorted
      rw [ruleFrom_append]
      generalize ran : ruleFrom rpm [] calls = log at spaced ⊢
      have before : ∀ a ∈ log, a.time ≤ call.1 := by
        intro a mem
        rw [← ran] at mem
        rcases ruled_times a mem with old | ⟨call', listed, same⟩
        · cases old
        · rw [same]
          exact past call' listed call List.mem_cons_self
      show Spaced _ _ (admittedTo key (log ++ [ruled rpm log call]))
      rw [admittedTo_append, admittedTo_single]
      split
      · rename_i admitted
        apply spaced_append spaced
        have room := of_decide_eq_false admitted.2
        have mine : call.2 = key := admitted.1
        rw [mine, counted_eq before] at room
        show (recent windowSeconds call.1 _).length < _
        omega
      · rw [List.append_nil]
        exact spaced

end

noncomputable def inRealWindow (start : Real) (key : String) (log : List Answer) : List Real :=
  inWindow ((windowSeconds : Rat) : Real) start ((admittedTo key log).map fun t : Rat => (t : Real))

structure Continues (rpm : Int) (before : List (Rat × String)) (now : Rat) (key : String)
    (after : List (Rat × String)) (limited : Bool) (rest : List Answer) : Prop where
  split : answers rpm (before ++ (now, key) :: after) = answers rpm before ++ ⟨now, key, limited⟩ :: rest
  rule : limited = false ↔ ((counted now key (answers rpm before)).length : Int) < rpm
  unnoticed : limited = true → answers rpm (before ++ after) = answers rpm before ++ rest

section
variable {rpm : Int} {calls : List (Rat × String)}

theorem continues_of_sorted {before after : List (Rat × String)} {now : Rat} {key : String}
    (sorted : (before ++ (now, key) :: after).Pairwise fun x y => x.1 ≤ y.1) :
    ∃ limited rest, Continues rpm before now key after limited rest := by
  have sorted' : (before ++ after).Pairwise fun x y => x.1 ≤ y.1 :=
    sorted.sublist ((List.Sublist.refl before).append (List.sublist_cons_self (now, key) after))
  have initial : before.Pairwise fun x y => x.1 ≤ y.1 := (List.pairwise_append.mp sorted).1
  have whole := @answers_eq rpm _ sorted
  rw [ruleFrom_append, ← answers_eq initial, ruleFrom_cons] at whole
  obtain ⟨rest, extended⟩ := @ruleFrom_extends rpm
    (answers rpm before ++ [ruled rpm (answers rpm before) (now, key)]) after
  refine ⟨(ruled rpm (answers rpm before) (now, key)).limited, rest, ?_, ?_, fun limited => ?_⟩
  · rw [whole, extended, List.append_assoc]
    rfl
  · exact decide_eq_false_iff_not.trans Int.not_le
  · -- A rejected call is in no window.
    have same (key' : String) :
        admittedTo key' (answers rpm before ++ [ruled rpm (answers rpm before) (now, key)]) =
          admittedTo key' (answers rpm before) := by
      rw [admittedTo_append, admittedTo_single, limited, if_neg (by simp), List.append_nil]
    rw [answers_eq sorted', ruleFrom_append, ← answers_eq initial]
    exact ruleFrom_same after same extended

theorem real_window_bounded (sorted : calls.Pairwise fun x y => x.1 ≤ y.1) (key : String)
    (start : Real) : ((inRealWindow start key (answers rpm calls)).length : Int) ≤ max rpm 0 := by
  have spaced := @spaced_rule rpm calls sorted key
  rw [← answers_eq sorted] at spaced
  have order : ∀ a b : Rat, ((a : Real) < b) ↔ a < b := fun a b => Rat.cast_lt
  have sub : ∀ a b : Rat, ((a - b : Rat) : Real) = a - b := Rat.cast_sub
  have bound : (inRealWindow start key (answers rpm calls)).length ≤ rpm.toNat :=
    spaced_inWindow (spaced_map order sub spaced) start
  omega

end

/-- A call is admitted exactly if its key has room in the window that ends with it, no window of a
key holds more than the limit, and neither rejected calls nor other keys make a difference. -/
theorem window_exact (rpm : Int) (calls : List (Rat × String))
    (sorted : calls.Pairwise fun x y => x.1 ≤ y.1) :
    (∀ before now key after, calls = before ++ (now, key) :: after →
      ∃ limited rest, Continues rpm before now key after limited rest) ∧
    (∀ (key : String) (start : Real),
      ((inRealWindow start key (answers rpm calls)).length : Int) ≤ max rpm 0) ∧
    ∀ key : String, (answers rpm calls).filter (fun a => a.key = key) =
      answers rpm (calls.filter fun call => call.2 = key) := by
  refine ⟨?_, real_window_bounded sorted, fun key => ?_⟩
  · intro before now key after same
    rw [same] at sorted
    exact continues_of_sorted sorted
  · rw [answers_eq sorted, answers_eq (sorted.sublist List.filter_sublist)]
    exact ruleFrom_key [] calls

theorem two_keys_exact :
    (∀ before now key after, [(0, "a"), ((1 : Rat), "b"), (2, "a")] = before ++ (now, key) :: after →
      ∃ limited rest, Continues 1 before now key after limited rest) ∧
    (∀ (key : String) (start : Real),
      ((inRealWindow start key (answers 1 [(0, "a"), (1, "b"), (2, "a")])).length : Int) ≤ max 1 0) ∧
    ∀ key : String, (answers 1 [(0, "a"), (1, "b"), (2, "a")]).filter (fun a => a.key = key) =
      answers 1 ([((0 : Rat), "a"), (1, "b"), (2, "a")].filter fun call => call.2 = key) := by
  have sorted : [(0, "a"), ((1 : Rat), "b"), (2, "a")].Pairwise fun x y => x.1 ≤ y.1 := by
    decide +kernel
  exact window_exact 1 _ sorted

end RealityAI.Proof.RateWindow
