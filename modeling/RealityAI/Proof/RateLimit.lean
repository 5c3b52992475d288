import RealityAI.Model.RateLimit

namespace RealityAI.Proof.RateLimit
open Library Model.Gateway Model.RateLimit

def admitted (log : List Handled) : List Rat :=
  (log.filter fun h => !h.request.isHealthCheck && h.response.isNone).map Handled.time

def admittedFor (hash : String → Int) (key : String) (log : List Handled) : List Rat :=
  admitted (log.filter fun h => getKey hash h.request = key)

def WithinLimit (hash : String → Int) (rpm : Int) (arrivals : List (Rat × Request)) : Prop :=
  ∀ start, ((inWindow windowSeconds start (admitted (handled hash rpm arrivals))).length : Int) ≤
    max rpm 0

section
variable {hash : String → Int} {rpm : Int} {log : List Handled} {requests : Requests} {now : Rat}
  {request : Request}

theorem admitted_append (log later : List Handled) :
    admitted (log ++ later) = admitted log ++ admitted later := by
  unfold admitted
  rw [List.filter_append, List.map_append]

theorem admittedFor_append (key : String) (log later : List Handled) :
    admittedFor hash key (log ++ later) = admittedFor hash key log ++ admittedFor hash key later := by
  unfold admittedFor
  rw [List.filter_append, admitted_append]

/-- The notes of each key are its admitted requests, less some that no longer count. -/
structure Noted (hash : String → Int) (rpm : Int) (log : List Handled) (requests : Requests) :
    Prop where
  spaced : ∀ key, Spaced rpm.toNat windowSeconds (admittedFor hash key log)
  counted : ∀ key now, (∀ h ∈ log, h.time ≤ now) →
    recent windowSeconds now (requests key) = recent windowSeconds now (admittedFor hash key log)

theorem noted_empty : Noted hash rpm [] fun _ => [] :=
  ⟨fun _ earlier t start => by simp [admittedFor, admitted] at start, fun _ _ _ => rfl⟩

theorem dispatch_health (health : request.isHealthCheck = true) :
    dispatch hash rpm requests now request = (requests, none) := by
  unfold dispatch
  rw [if_pos health]

theorem dispatch_refused (counted : request.isHealthCheck = false)
    (full : rpm ≤ (recent windowSeconds now (requests (getKey hash request))).length) :
    dispatch hash rpm requests now request =
      (Function.update requests (getKey hash request)
        (recent windowSeconds now (requests (getKey hash request))),
        some ⟨429, "Rate limit exceeded. Try again later."⟩) := by
  simp [dispatch, isRateLimited, counted, full]

theorem dispatch_admitted (counted : request.isHealthCheck = false)
    (room : ¬ rpm ≤ (recent windowSeconds now (requests (getKey hash request))).length) :
    dispatch hash rpm requests now request =
      (Function.update requests (getKey hash request)
        (recent windowSeconds now (requests (getKey hash request)) ++ [now]), none) := by
  simp [dispatch, isRateLimited, counted, room]

theorem admittedFor_single (key : String) (response : Option HttpException) :
    admittedFor hash key [⟨now, request, response⟩] =
      if getKey hash request = key ∧ request.isHealthCheck = false ∧ response = none then [now]
      else [] := by
  unfold admittedFor admitted
  by_cases same : getKey hash request = key <;> cases health : request.isHealthCheck <;>
    cases response <;> simp [same, health]

theorem Noted.silent {requests' : Requests} {response : Option HttpException}
    (inv : Noted hash rpm log requests)
    (silent : ∀ key, admittedFor hash key [⟨now, request, response⟩] = [])
    (kept : ∀ key later, now ≤ later →
      recent windowSeconds later (requests' key) = recent windowSeconds later (requests key)) :
    Noted hash rpm (log ++ [⟨now, request, response⟩]) requests' := by
  have same (key : String) : admittedFor hash key (log ++ [⟨now, request, response⟩]) =
      admittedFor hash key log := by
    rw [admittedFor_append, silent, List.append_nil]
  constructor
  · intro key
    rw [same]
    exact inv.spaced key
  · intro key later past
    have reached : now ≤ later := past ⟨now, request, response⟩ (by simp)
    rw [same, kept key later reached]
    exact inv.counted key later fun h mem => past h (by simp [mem])

theorem Noted.accept (inv : Noted hash rpm log requests) (order : ∀ h ∈ log, h.time ≤ now)
    (counted : request.isHealthCheck = false)
    (room : (recent windowSeconds now (requests (getKey hash request))).length < rpm.toNat) :
    Noted hash rpm (log ++ [⟨now, request, none⟩])
      (Function.update requests (getKey hash request)
        (recent windowSeconds now (requests (getKey hash request)) ++ [now])) := by
  constructor
  · intro key
    rw [admittedFor_append, admittedFor_single]
    split
    · rename_i here
      apply spaced_append (inv.spaced key)
      rwa [← inv.counted key now order, ← here.1]
    · rw [List.append_nil]
      exact inv.spaced key
  · intro key later past
    have reached : now ≤ later := past ⟨now, request, none⟩ (by simp)
    have before := inv.counted key later fun h mem => past h (by simp [mem])
    rw [admittedFor_append, admittedFor_single, recent_append, ← before]
    by_cases same : key = getKey hash request
    · subst same
      rw [Function.update_self, recent_append, recent_recent reached, if_pos ⟨rfl, counted, rfl⟩]
    · rw [Function.update_of_ne same, if_neg fun here => same here.1.symm]
      simp [recent]

theorem noted_step (inv : Noted hash rpm log requests) (order : ∀ h ∈ log, h.time ≤ now) :
    Noted hash rpm (log ++ [⟨now, request, (dispatch hash rpm requests now request).2⟩])
      (dispatch hash rpm requests now request).1 := by
  cases health : request.isHealthCheck with
  | true =>
      rw [dispatch_health health]
      exact inv.silent (fun key => by simp [admittedFor_single, health]) fun _ _ _ => rfl
  | false =>
      by_cases full : rpm ≤ (recent windowSeconds now (requests (getKey hash request))).length
      · -- A refused request still prunes the notes of its key.
        rw [dispatch_refused health full]
        apply inv.silent (fun key => by simp [admittedFor_single])
        intro key later reached
        dsimp only
        by_cases same : key = getKey hash request
        · rw [same, Function.update_self, recent_recent reached]
        · rw [Function.update_of_ne same]
      · rw [dispatch_admitted health full]
        apply inv.accept order health
        omega

theorem noted_run {arrivals : List (Rat × Request)}
    (sorted : arrivals.Pairwise fun x y => x.1 ≤ y.1) (inv : Noted hash rpm log requests)
    (order : ∀ h ∈ log, ∀ x ∈ arrivals, h.time ≤ x.1) :
    Noted hash rpm (log ++ ((middleware hash rpm).run requests arrivals).2)
      ((middleware hash rpm).run requests arrivals).1 := by
  induction arrivals generalizing log requests with
  | nil =>
      rw [Machine.run, List.append_nil]
      exact inv
  | cons arrival arrivals ih =>
      obtain ⟨later, sorted⟩ := List.pairwise_cons.mp sorted
      rw [Machine.run, ← List.append_assoc]
      apply ih sorted (noted_step inv fun h mem => order h mem arrival List.mem_cons_self)
      intro h mem x member
      rcases List.mem_append.mp mem with old | new
      · exact order h old x (List.mem_cons_of_mem _ member)
      · cases List.mem_singleton.mp new
        exact later x member

theorem limit_per_key (hash : String → Int) (rpm : Int) (arrivals : List (Rat × Request))
    (sorted : arrivals.Pairwise fun x y => x.1 ≤ y.1) (key : String) (start : Rat) :
    (inWindow windowSeconds start (admittedFor hash key (handled hash rpm arrivals))).length ≤
      rpm.toNat := by
  have inv : Noted hash rpm (handled hash rpm arrivals) _ :=
    noted_run sorted noted_empty fun h mem => nomatch mem
  exact spaced_inWindow (inv.spaced key) start

theorem handled_requests (arrivals : List (Rat × Request)) (requests : Requests) :
    ∀ h ∈ ((middleware hash rpm).run requests arrivals).2, ∃ x ∈ arrivals, h.request = x.2 := by
  induction arrivals generalizing requests with
  | nil => nofun
  | cons arrival arrivals ih =>
      intro h mem
      rcases List.mem_append.mp mem with first | later
      · cases List.mem_singleton.mp first
        exact ⟨arrival, List.mem_cons_self, rfl⟩
      · obtain ⟨x, member, same⟩ := ih _ h later
        exact ⟨x, List.mem_cons_of_mem _ member, same⟩

theorem within_of_one_key {arrivals : List (Rat × Request)}
    (sorted : arrivals.Pairwise fun x y => x.1 ≤ y.1) (key : String)
    (one : ∀ x ∈ arrivals, x.2.isHealthCheck = false → getKey hash x.2 = key) :
    WithinLimit hash rpm arrivals := by
  intro start
  have all : admitted (handled hash rpm arrivals) =
      admittedFor hash key (handled hash rpm arrivals) := by
    unfold admittedFor admitted
    rw [List.filter_filter]
    congr 1
    apply List.filter_congr
    intro h mem
    obtain ⟨x, member, same⟩ := handled_requests arrivals _ h mem
    cases health : h.request.isHealthCheck with
    | true => simp
    | false => simp [same, one x member (same ▸ health)]
  have bound := limit_per_key hash rpm arrivals sorted key start
  rw [all]
  omega

theorem within_of_no_limit {arrivals : List (Rat × Request)}
    (sorted : arrivals.Pairwise fun x y => x.1 ≤ y.1) (closed : rpm ≤ 0) :
    WithinLimit hash rpm arrivals := by
  have inv : Noted hash rpm (handled hash rpm arrivals) _ :=
    noted_run sorted noted_empty fun h mem => nomatch mem
  have none : admitted (handled hash rpm arrivals) = [] := by
    unfold admitted
    rw [List.map_eq_nil_iff, List.filter_eq_nil_iff]
    intro h mem passed
    have spaced := inv.spaced (getKey hash h.request)
    rw [Int.toNat_of_nonpos closed] at spaced
    have empty := spaced_zero spaced
    rw [admittedFor, admitted, List.map_eq_nil_iff, List.filter_eq_nil_iff] at empty
    exact empty h (List.mem_filter.mpr ⟨mem, decide_eq_true rfl⟩) passed
  intro start
  rw [none]
  exact le_max_right rpm 0

theorem recent_replicate (m : Nat) :
    recent windowSeconds now (List.replicate m now) = List.replicate m now := by
  apply List.filter_eq_self.mpr
  intro t mem
  rw [List.eq_of_mem_replicate mem]
  exact decide_eq_true (sub_lt_self now (by decide +kernel : (0 : Rat) < 60))

theorem burst (counted : request.isHealthCheck = false) (n : Nat) {m : Nat} {requests : Requests}
    (noted : requests (getKey hash request) = List.replicate m now) (room : (m + n : Int) ≤ rpm) :
    admitted ((middleware hash rpm).run requests (List.replicate n (now, request))).2 =
        List.replicate n now ∧
      ∀ key, key ≠ getKey hash request →
        ((middleware hash rpm).run requests (List.replicate n (now, request))).1 key =
          requests key := by
  induction n generalizing m requests with
  | zero => exact ⟨rfl, fun _ _ => rfl⟩
  | succ n ih =>
      push_cast at room
      have free : ¬ rpm ≤ (recent windowSeconds now (requests (getKey hash request))).length := by
        rw [noted, recent_replicate, List.length_replicate]
        omega
      have stepped : (middleware hash rpm).step requests (now, request) =
          (Function.update requests (getKey hash request) (List.replicate (m + 1) now),
            [⟨now, request, none⟩]) := by
        simp only [middleware, dispatch_admitted counted free, noted, recent_replicate,
          List.replicate_succ']
      obtain ⟨times, others⟩ := ih
        (Function.update_self (getKey hash request) (List.replicate (m + 1) now) requests)
        (by push_cast; omega)
      rw [List.replicate_succ, Machine.run, stepped]
      constructor
      · rw [admitted_append, times]
        simp [admitted, counted, List.replicate_succ]
      · intro key other
        rw [others key other, Function.update_of_ne other]

theorem second_key_exceeds {first second : Request} (positive : 0 < rpm)
    (firstCounted : first.isHealthCheck = false) (secondCounted : second.isHealthCheck = false)
    (apart : getKey hash first ≠ getKey hash second) :
    ¬ WithinLimit hash rpm (List.replicate rpm.toNat (0, first) ++ [(0, second)]) := by
  intro within
  let fresh : Requests := fun _ => []
  have full : ((0 : Nat) + rpm.toNat : Int) ≤ rpm := by omega
  have room : ((0 : Nat) + (1 : Nat) : Int) ≤ rpm := by omega
  have before : fresh (getKey hash first) = List.replicate 0 (0 : Rat) := rfl
  obtain ⟨times, others⟩ := burst firstCounted rpm.toNat before full
  have untouched : _ = List.replicate 0 (0 : Rat) := others (getKey hash second) (Ne.symm apart)
  obtain ⟨time, -⟩ := burst secondCounted 1 untouched room
  have all : admitted (handled hash rpm (List.replicate rpm.toNat (0, first) ++ [(0, second)])) =
      List.replicate (rpm.toNat + 1) 0 := by
    unfold handled
    rw [Machine.log_append, admitted_append, times]
    exact congrArg _ time |>.trans (List.replicate_append_replicate ..)
  have inside : inWindow windowSeconds (-1) (List.replicate (rpm.toNat + 1) 0) =
      List.replicate (rpm.toNat + 1) (0 : Rat) := by
    apply List.filter_eq_self.mpr
    intro t mem
    rw [List.eq_of_mem_replicate mem]
    decide +kernel
  have bound := within (-1)
  rw [all, inside, List.length_replicate] at bound
  omega

end

def requestsOf {decode : Decode} {userId : String} (arrivals : List (Rat × UserRequest decode userId)) :
    List (Rat × Request) :=
  arrivals.map fun x => (x.1, x.2.toRequest)

section
variable {hash : String → Int} {rpm : Int} {decode : Decode} {userId : String}
  {sent : Set (UserRequest decode userId)}

theorem exceeds_of_two_keys {r r' : UserRequest decode userId} (mem : r ∈ sent) (mem' : r' ∈ sent)
    (positive : 0 < rpm) (counted : r.isHealthCheck = false) (counted' : r'.isHealthCheck = false)
    (apart : getKey hash r.toRequest ≠ getKey hash r'.toRequest) :
    ∃ arrivals : List (Rat × UserRequest decode userId), (∀ x ∈ arrivals, x.2 ∈ sent) ∧
      (arrivals.Pairwise fun x y => x.1 ≤ y.1) ∧ ¬ WithinLimit hash rpm (requestsOf arrivals) := by
  refine ⟨List.replicate rpm.toNat (0, r) ++ [(0, r')], ?_, ?_, ?_⟩
  · intro x member
    rcases List.mem_append.mp member with first | last
    · rwa [List.eq_of_mem_replicate first]
    · rwa [List.mem_singleton.mp last]
  · have still {z : Rat × UserRequest decode userId}
        (member : z ∈ List.replicate rpm.toNat (0, r) ++ [(0, r')]) : z.1 = 0 := by
      rcases List.mem_append.mp member with first | last
      · rw [List.eq_of_mem_replicate first]
      · rw [List.mem_singleton.mp last]
    apply List.pairwise_of_forall_mem_list
    intro x member y member'
    rw [still member, still member']
  · intro within
    apply second_key_exceeds positive counted counted' apart
    simpa [requestsOf] using within

theorem within_of_same_keys {arrivals : List (Rat × UserRequest decode userId)}
    (mine : ∀ x ∈ arrivals, x.2 ∈ sent) (sorted : arrivals.Pairwise fun x y => x.1 ≤ y.1)
    (one : ∀ r ∈ sent, ∀ r' ∈ sent, r.isHealthCheck = false → r'.isHealthCheck = false →
      getKey hash r.toRequest = getKey hash r'.toRequest) :
    WithinLimit hash rpm (requestsOf arrivals) := by
  have sorted' : (requestsOf arrivals).Pairwise fun x y => x.1 ≤ y.1 := List.pairwise_map.mpr sorted
  have from_user {x : Rat × Request} (member : x ∈ requestsOf arrivals) :
      ∃ r ∈ sent, x.2 = r.toRequest := by
    obtain ⟨y, member', rfl⟩ := List.mem_map.mp member
    exact ⟨y.2, mine y member', rfl⟩
  by_cases any : ∃ r ∈ sent, r.isHealthCheck = false
  · obtain ⟨r, mem, counted⟩ := any
    apply within_of_one_key sorted' (getKey hash r.toRequest)
    intro x member counted'
    obtain ⟨r', mem', same⟩ := from_user member
    rw [same] at counted' ⊢
    exact one r' mem' r mem counted' counted
  · apply within_of_one_key sorted' ""
    intro x member counted
    obtain ⟨r', mem', same⟩ := from_user member
    exact absurd ⟨r', mem', same ▸ counted⟩ any

end

/-- The limit holds for a user, whatever is sent and when, exactly if all the counted requests that
the user can send have one key. -/
theorem limit_per_user_iff (hash : String → Int) (rpm : Int) (decode : Decode) (userId : String)
    (sent : Set (UserRequest decode userId)) :
    (∀ arrivals : List (Rat × UserRequest decode userId), (∀ x ∈ arrivals, x.2 ∈ sent) →
      (arrivals.Pairwise fun x y => x.1 ≤ y.1) → WithinLimit hash rpm (requestsOf arrivals)) ↔
    rpm ≤ 0 ∨ ∀ r ∈ sent, ∀ r' ∈ sent, r.isHealthCheck = false → r'.isHealthCheck = false →
      getKey hash r.toRequest = getKey hash r'.toRequest := by
  constructor
  · intro all
    by_contra neither
    rw [not_or, not_le] at neither
    obtain ⟨positive, several⟩ := neither
    apply several
    intro r mem r' mem' counted counted'
    by_contra apart
    obtain ⟨arrivals, mine, sorted, exceeds⟩ :=
      exceeds_of_two_keys mem mem' positive counted counted' apart
    exact exceeds (all arrivals mine sorted)
  · intro either arrivals mine sorted
    rcases either with closed | one
    · exact within_of_no_limit (List.pairwise_map.mpr sorted) closed
    · exact within_of_same_keys mine sorted one

/-! A student asks for a second token. -/

def studentTokens : Decode := fun _ => .ok [("sub", .str "S001"), ("role", .str "student")]

def chat (token : String) : UserRequest studentTokens "S001" where
  path := "/chat"
  authorization := some ("Bearer" ++ " " ++ token)
  client := some "10.0.0.1"
  scheme := "Bearer"
  token := token
  user := ⟨"S001", "student"⟩
  bearer := by decide +kernel
  carried := rfl
  valid := by rfl
  subject := rfl

theorem second_token_escapes :
    ¬ ∀ arrivals : List (Rat × UserRequest studentTokens "S001"),
      (arrivals.Pairwise fun x y => x.1 ≤ y.1) →
        WithinLimit (fun s => s.length) 1 (requestsOf arrivals) := by
  intro all
  have sorted : [(0, chat "first"), ((1 : Rat), chat "second")].Pairwise fun x y => x.1 ≤ y.1 :=
    List.pairwise_pair.mpr (by decide +kernel)
  have bound := all _ sorted (-1)
  revert bound
  decide +kernel

end RealityAI.Proof.RateLimit
