import Mathlib.Data.List.Basic

/-!
# Machines that log what they do

A machine takes one command after another and emits events. An invariant of the log and the state is
proved for one step, and a property of every event from what holds of the log before it.
-/

namespace RealityAI.Library

structure Machine (σ κ ω : Type) where
  step : σ → κ → σ × List ω

namespace Machine

variable {σ κ ω : Type} (m : Machine σ κ ω)

def run (s : σ) : List κ → σ × List ω
  | [] => (s, [])
  | c :: cs =>
      let stepped := m.step s c
      let rest := run stepped.1 cs
      (rest.1, stepped.2 ++ rest.2)

/-- Every command of a run meets a condition in the state in which it is taken. -/
def Along (P : σ → κ → Prop) (s : σ) : List κ → Prop
  | [] => True
  | c :: cs => P s c ∧ Along P (m.step s c).1 cs

theorem along_true (s : σ) (cs : List κ) : m.Along (fun _ _ => True) s cs := by
  induction cs generalizing s with
  | nil => trivial
  | cons c cs ih => exact ⟨trivial, ih _⟩

def Always (Q : σ → Prop) (s : σ) (cs : List κ) : Prop :=
  ∀ before, before <+: cs → Q (m.run s before).1

variable {m} {P : σ → κ → Prop} {Inv : List ω → σ → Prop}

theorem Along.mono {P' : σ → κ → Prop} (weaker : ∀ s c, P s c → P' s c) {s : σ} {cs : List κ}
    (along : m.Along P s cs) : m.Along P' s cs := by
  induction cs generalizing s with
  | nil => trivial
  | cons c cs ih => exact ⟨weaker s c along.1, ih along.2⟩

theorem Along.initial {s : σ} {before cs : List κ} (along : m.Along P s cs) (start : before <+: cs) :
    m.Along P s before := by
  induction before generalizing s cs with
  | nil => trivial
  | cons c before ih =>
      cases cs with
      | nil => cases List.prefix_nil.mp start
      | cons c' cs =>
          obtain ⟨same, later⟩ := List.cons_prefix_cons.mp start
          subst same
          exact ⟨along.1, ih along.2 later⟩

theorem run_append (s : σ) (cs ds : List κ) :
    (m.run s (cs ++ ds)).1 = (m.run (m.run s cs).1 ds).1 := by
  induction cs generalizing s with
  | nil => rfl
  | cons c cs ih => exact ih _

theorem log_append (s : σ) (cs ds : List κ) :
    (m.run s (cs ++ ds)).2 = (m.run s cs).2 ++ (m.run (m.run s cs).1 ds).2 := by
  induction cs generalizing s with
  | nil => rfl
  | cons c cs ih =>
      rw [List.cons_append, run, ih]
      exact (List.append_assoc _ _ _).symm

theorem along_iff {s : σ} {cs : List κ} :
    m.Along P s cs ↔ ∀ before c, before ++ [c] <+: cs → P (m.run s before).1 c := by
  induction cs generalizing s with
  | nil => simp [Along]
  | cons c cs ih =>
      rw [Along, ih]
      constructor
      · intro ⟨here, later⟩ before c' start
        cases before with
        | nil =>
            obtain ⟨same, -⟩ := List.cons_prefix_cons.mp start
            subst same
            exact here
        | cons c'' before =>
            obtain ⟨same, rest⟩ := List.cons_prefix_cons.mp start
            subst same
            exact later before c' rest
      · intro all
        exact ⟨all [] c (by simp), fun before c' start => all (c :: before) c' (by simpa using start)⟩

theorem along_of_forall {P : κ → Prop} {cs : List κ} (all : ∀ c ∈ cs, P c) (s : σ) :
    m.Along (fun _ c => P c) s cs := by
  rw [along_iff]
  intro before c start
  exact all c (start.subset (List.mem_append_right _ List.mem_cons_self))

def logging {ω' : Type} (m : Machine σ κ ω) (log : σ → κ → List ω') : Machine σ κ ω' :=
  ⟨fun s c => ((m.step s c).1, log s c)⟩

theorem logging_run {ω' : Type} (log : σ → κ → List ω') (s : σ) (cs : List κ) :
    ((m.logging log).run s cs).1 = (m.run s cs).1 := by
  induction cs generalizing s with
  | nil => rfl
  | cons c cs ih => exact ih _

theorem log_mono {before cs : List κ} (start : before <+: cs) (s : σ) :
    (m.run s before).2 <+: (m.run s cs).2 := by
  obtain ⟨later, rfl⟩ := start
  rw [log_append]
  exact List.prefix_append ..

/-- An invariant of the state and of the commands that have led to it. -/
theorem run_history {Inv : List κ → σ → Prop}
    (step : ∀ done s c, P s c → Inv done s → Inv (done ++ [c]) (m.step s c).1)
    {s : σ} {cs : List κ} (along : m.Along P s cs) {done : List κ} (start : Inv done s) :
    Inv (done ++ cs) (m.run s cs).1 := by
  induction cs generalizing s done with
  | nil =>
      rw [List.append_nil]
      exact start
  | cons c cs ih =>
      obtain ⟨here, later⟩ := along
      have rest := ih later (step done s c here start)
      rwa [List.append_assoc] at rest

section
variable {Q : σ → Prop} (step : ∀ s c, P s c → Q s → Q (m.step s c).1)
include step

theorem run_invariant {s : σ} {cs : List κ} (along : m.Along P s cs) (start : Q s) :
    Q (m.run s cs).1 := by
  induction cs generalizing s with
  | nil => exact start
  | cons c cs ih =>
      obtain ⟨here, later⟩ := along
      exact ih later (step s c here start)

theorem always_of_invariant {s : σ} {cs : List κ} (along : m.Along P s cs) (start : Q s) :
    m.Always Q s cs :=
  fun _ initial => run_invariant step (along.initial initial) start

end

def Each (Good : List ω → ω → Prop) (log : List ω) : List ω → Prop
  | [] => True
  | e :: es => Good log e ∧ Each Good (log ++ [e]) es

variable {Good : List ω → ω → Prop}

theorem Each.append {log es fs : List ω} (first : Each Good log es)
    (second : Each Good (log ++ es) fs) : Each Good log (es ++ fs) := by
  induction es generalizing log with
  | nil => rwa [List.append_nil] at second
  | cons e es ih =>
      rw [← List.singleton_append, ← List.append_assoc] at second
      exact ⟨first.1, ih first.2 second⟩

theorem Each.split {log pre post : List ω} {e : ω} (each : Each Good log (pre ++ e :: post)) :
    Good (log ++ pre) e := by
  induction pre generalizing log with
  | nil =>
      rw [List.append_nil]
      exact each.1
  | cons e' pre ih =>
      have later := ih each.2
      rwa [List.append_assoc] at later

theorem run_logged
    (step : ∀ log s c, P s c → Inv log s → Inv (log ++ (m.step s c).2) (m.step s c).1)
    {s : σ} {cs : List κ} (along : m.Along P s cs) {log : List ω} (start : Inv log s) :
    Inv (log ++ (m.run s cs).2) (m.run s cs).1 := by
  induction cs generalizing s log with
  | nil =>
      rw [run, List.append_nil]
      exact start
  | cons c cs ih =>
      obtain ⟨here, later⟩ := along
      rw [run, ← List.append_assoc]
      exact ih later (step log s c here start)

theorem run_emits
    (step : ∀ log s c, P s c → Inv log s → Inv (log ++ (m.step s c).2) (m.step s c).1)
    (emits : ∀ log s c, P s c → Inv log s → Each Good log (m.step s c).2)
    {s : σ} {cs : List κ} (along : m.Along P s cs) {log : List ω} (start : Inv log s) :
    Each Good log (m.run s cs).2 := by
  induction cs generalizing s log with
  | nil => trivial
  | cons c cs ih =>
      obtain ⟨here, later⟩ := along
      exact (emits log s c here start).append (ih later (step log s c here start))

end Machine

end RealityAI.Library
