import Mathlib.Data.List.Basic

/-!
# Computations that log and may fail

`Eff ε ω α` returns an `α` or fails with an `ε`, and logs events of type `ω` up to that point: what
was logged before a failure stays.
-/

namespace RealityAI.Library

structure Eff (ε ω α : Type) where
  log : List ω
  out : Except ε α

namespace Eff

variable {ε ω α β : Type}

protected def bind (x : Eff ε ω α) (f : α → Eff ε ω β) : Eff ε ω β :=
  match x.out with
  | .ok a => ⟨x.log ++ (f a).log, (f a).out⟩
  | .error e => ⟨x.log, .error e⟩

instance : Monad (Eff ε ω) where
  pure a := ⟨[], .ok a⟩
  bind := Eff.bind

def raise (e : ε) : Eff ε ω α := ⟨[], .error e⟩

def emit (event : ω) : Eff ε ω Unit := ⟨[event], .ok ()⟩

def lift : Except ε α → Eff ε ω α
  | .ok a => pure a
  | .error e => raise e

@[simp] theorem pure_log (a : α) : (pure a : Eff ε ω α).log = [] := rfl

@[simp] theorem pure_out (a : α) : (pure a : Eff ε ω α).out = .ok a := rfl

@[simp] theorem raise_log (e : ε) : (raise e : Eff ε ω α).log = [] := rfl

@[simp] theorem raise_out (e : ε) : (raise e : Eff ε ω α).out = .error e := rfl

@[simp] theorem emit_log (event : ω) : (emit event : Eff ε ω Unit).log = [event] := rfl

@[simp] theorem emit_out (event : ω) : (emit event : Eff ε ω Unit).out = .ok () := rfl

@[simp] theorem lift_log (x : Except ε α) : (lift x : Eff ε ω α).log = [] := by
  cases x <;> rfl

@[simp] theorem lift_out (x : Except ε α) : (lift x : Eff ε ω α).out = x := by
  cases x <;> rfl

theorem bind_ok {x : Eff ε ω α} {f : α → Eff ε ω β} {a : α} (h : x.out = .ok a) :
    x >>= f = ⟨x.log ++ (f a).log, (f a).out⟩ := by
  show Eff.bind x f = _
  simp [Eff.bind, h]

theorem bind_error {x : Eff ε ω α} {f : α → Eff ε ω β} {e : ε} (h : x.out = .error e) :
    x >>= f = ⟨x.log, .error e⟩ := by
  show Eff.bind x f = _
  simp [Eff.bind, h]

@[simp] theorem pure_bind' (a : α) (f : α → Eff ε ω β) : (pure a >>= f : Eff ε ω β) = f a :=
  bind_ok (by rfl)

@[simp] theorem raise_bind (e : ε) (f : α → Eff ε ω β) :
    (raise e >>= f : Eff ε ω β) = raise e := bind_error (by rfl)

@[simp] theorem map_log (x : Eff ε ω α) (f : α → β) : (x >>= fun a => pure (f a)).log = x.log := by
  cases h : x.out with
  | error e => rw [bind_error h]
  | ok a => rw [bind_ok h, pure_log, List.append_nil]

theorem map_ok {x : Eff ε ω α} {a : α} (h : x.out = .ok a) (f : α → β) :
    (x >>= fun a => pure (f a)) = ⟨x.log, .ok (f a)⟩ := by
  rw [bind_ok h, pure_log, List.append_nil]
  rfl

@[simp] theorem bind_lift_log (x : Eff ε ω α) (f : α → Except ε β) :
    (x >>= fun a => lift (f a)).log = x.log := by
  cases h : x.out with
  | error e => rw [bind_error h]
  | ok a => rw [bind_ok h, lift_log, List.append_nil]

theorem map_bind {γ : Type} (x : Eff ε ω α) (f : α → β) (g : β → Eff ε ω γ) :
    ((x >>= fun a => pure (f a)) >>= g) = x >>= fun a => g (f a) := by
  cases h : x.out with
  | error e =>
      rw [bind_error h, bind_error h]
      exact bind_error rfl
  | ok a =>
      rw [bind_ok h, bind_ok h, pure_log, List.append_nil]
      exact bind_ok rfl

theorem prepend_bind (log : List ω) (x : Eff ε ω α) (f : α → Eff ε ω β) :
    (⟨log ++ x.log, x.out⟩ : Eff ε ω α) >>= f = ⟨log ++ (x >>= f).log, (x >>= f).out⟩ := by
  cases h : x.out with
  | error e => rw [bind_error h, bind_error (by rfl)]
  | ok a => rw [bind_ok h, bind_ok (by rfl), List.append_assoc]

theorem mem_bind_log {x : Eff ε ω α} {f : α → Eff ε ω β} {event : ω} :
    event ∈ (x >>= f).log ↔ event ∈ x.log ∨ ∃ a, x.out = .ok a ∧ event ∈ (f a).log := by
  cases h : x.out with
  | ok a => simp [bind_ok h]
  | error e => simp [bind_error h]

theorem bind_out_ok {x : Eff ε ω α} {f : α → Eff ε ω β} {b : β} :
    (x >>= f).out = .ok b ↔ ∃ a, x.out = .ok a ∧ (f a).out = .ok b := by
  cases h : x.out with
  | ok a => simp [bind_ok h]
  | error e => simp [bind_error h]

end Eff

end RealityAI.Library
