import Mathlib.Data.List.TakeWhile

/-!
# Headers of labelled lines

A field is the first line that begins with its key, blanks aside. Writing it keeps the label, and a
value that does not begin with a blank is read back.
-/

namespace RealityAI.Library.Header

variable {α : Type} {blank : α → Bool}

/-- A text that no blank is taken off. -/
def Tight (blank : α → Bool) (text : List α) : Prop := ∀ c ∈ text.head?, blank c = false

structure Key (α : Type) (blank : α → Bool) where
  text : List α
  nonempty : text ≠ []
  tight : Tight blank text

theorem Tight.dropWhile {text : List α} (tight : Tight blank text) : text.dropWhile blank = text := by
  cases text with
  | nil => rfl
  | cons c text => simp [tight c rfl]

theorem Tight.takeWhile {text : List α} (tight : Tight blank text) : text.takeWhile blank = [] := by
  cases text with
  | nil => rfl
  | cons c text => simp [tight c rfl]

theorem Key.tight_append (key : Key α blank) (rest : List α) : Tight blank (key.text ++ rest) := by
  obtain ⟨c, text, same⟩ := List.exists_cons_of_ne_nil key.nonempty
  have tight := key.tight
  rw [same] at tight ⊢
  exact tight

def Apart (key other : Key α blank) : Prop := ¬ key.text <+: other.text ∧ ¬ other.text <+: key.text

theorem Apart.symm {key other : Key α blank} (apart : Apart key other) : Apart other key :=
  ⟨apart.2, apart.1⟩

structure Label (key : Key α blank) (label : List α) : Prop where
  parts : ∃ indent blanks, label = indent ++ key.text ++ blanks ∧ (∀ c ∈ indent, blank c = true) ∧
    ∀ c ∈ blanks, blank c = true

variable [DecidableEq α] (key : Key α blank)

def entry (line : List α) : Option (List α × List α) :=
  let named := line.dropWhile blank
  if key.text <+: named then
    let rest := named.drop key.text.length
    some (line.takeWhile blank ++ key.text ++ rest.takeWhile blank, rest.dropWhile blank)
  else none

def read : List (List α) → Option (List α)
  | [] => none
  | line :: lines =>
      match entry key line with
      | some (_, value) => some value
      | none => read lines

def write (value : List α) : List (List α) → List (List α)
  | [] => []
  | line :: lines =>
      match entry key line with
      | some (label, _) => (label ++ value) :: lines
      | none => line :: write value lines

variable {key} {line label value old : List α} {lines : List (List α)}

theorem entry_iff : entry key line = some (label, value) ↔
    line = label ++ value ∧ Label key label ∧ Tight blank value := by
  constructor
  · intro found
    unfold entry at found
    dsimp only at found
    split at found
    · rename_i named
      obtain ⟨rest, same⟩ := named
      rw [← same, List.drop_left] at found
      cases found
      refine ⟨?_, ⟨_, rest.takeWhile blank, rfl, fun c => List.mem_takeWhile_imp,
        fun c => List.mem_takeWhile_imp⟩, ?_⟩
      · rw [List.append_assoc, List.takeWhile_append_dropWhile, List.append_assoc, same,
          List.takeWhile_append_dropWhile]
      · intro c first
        have kept := List.head?_dropWhile_not blank rest
        rw [first] at kept
        simpa using kept
    · cases found
  · rintro ⟨rfl, ⟨indent, blanks, rfl, before, between⟩, tight⟩
    have named : (indent ++ key.text ++ blanks ++ value).dropWhile blank =
        key.text ++ (blanks ++ value) := by
      rw [List.append_assoc, List.append_assoc, List.dropWhile_append_of_pos before,
        (key.tight_append _).dropWhile]
    have indented : (indent ++ key.text ++ blanks ++ value).takeWhile blank = indent := by
      rw [List.append_assoc, List.append_assoc, List.takeWhile_append_of_pos before,
        (key.tight_append _).takeWhile, List.append_nil]
    simp only [entry, named, indented, List.prefix_append, if_true, List.drop_left,
      List.takeWhile_append_of_pos between, List.dropWhile_append_of_pos between, tight.dropWhile,
      tight.takeWhile, List.append_nil]

theorem entry_relabel (found : entry key line = some (label, old)) (tight : Tight blank value) :
    entry key (label ++ value) = some (label, value) :=
  entry_iff.mpr ⟨rfl, (entry_iff.mp found).2.1, tight⟩

theorem mem_write (mem : line ∈ write key value lines) : line ∈ lines ∨
    ∃ label old, label ++ old ∈ lines ∧ Label key label ∧ line = label ++ value := by
  induction lines with
  | nil => cases mem
  | cons first lines ih =>
      unfold write at mem
      cases here : entry key first with
      | some field =>
          rw [here] at mem
          rcases List.mem_cons.mp mem with relabelled | later
          · obtain ⟨same, named, -⟩ := entry_iff.mp here
            exact .inr ⟨field.1, field.2, by simp [← same], named, relabelled⟩
          · exact .inl (List.mem_cons_of_mem _ later)
      | none =>
          rw [here] at mem
          rcases List.mem_cons.mp mem with same | later
          · exact .inl (by simp [same])
          · rcases ih later with kept | ⟨label, old, from_line, named, same⟩
            · exact .inl (List.mem_cons_of_mem _ kept)
            · exact .inr ⟨label, old, List.mem_cons_of_mem _ from_line, named, same⟩

theorem write_length (value : List α) (lines : List (List α)) :
    (write key value lines).length = lines.length := by
  induction lines with
  | nil => rfl
  | cons line lines ih =>
      cases here : entry key line with
      | some field => simp only [write, here, List.length_cons]
      | none => simp only [write, here, List.length_cons, ih]

theorem tail_write (value : List α) (lines : List (List α)) :
    (write key value lines).tail = lines.tail ∨
      (write key value lines).tail = write key value lines.tail := by
  cases lines with
  | nil => exact .inl rfl
  | cons line lines =>
      cases here : entry key line with
      | some field => exact .inl (by simp only [write, here, List.tail_cons])
      | none => exact .inr (by simp only [write, here, List.tail_cons])

theorem read_write (found : read key lines = some old) (tight : Tight blank value) :
    read key (write key value lines) = some value := by
  induction lines with
  | nil => cases found
  | cons line lines ih =>
      unfold read at found
      cases here : entry key line with
      | some field =>
          simp only [write, read, here, entry_relabel here tight]
      | none =>
          rw [here] at found
          simp only [write, read, here, ih found]

theorem write_write (tight : Tight blank value) (later : List α) :
    write key later (write key value lines) = write key later lines := by
  induction lines with
  | nil => rfl
  | cons line lines ih =>
      cases here : entry key line with
      | some field => simp only [write, here, entry_relabel here tight]
      | none => simp only [write, here, ih]

variable {other : Key α blank}

theorem Apart.entry (apart : Apart key other) (found : entry other line = some (label, value)) :
    entry key line = none := by
  cases both : Header.entry key line with
  | none => rfl
  | some field =>
      have begins {k : Key α blank} {label value : List α}
          (found : Header.entry k line = some (label, value)) : k.text <+: line.dropWhile blank := by
        unfold Header.entry at found
        dsimp only at found
        split at found
        · assumption
        · cases found
      rcases List.prefix_or_prefix_of_prefix (begins both) (begins found) with first | second
      · exact absurd first apart.1
      · exact absurd second apart.2

theorem read_write_other (apart : Apart key other) (tight : Tight blank value) :
    read key (write other value lines) = read key lines := by
  induction lines with
  | nil => rfl
  | cons line lines ih =>
      cases here : entry other line with
      | some field =>
          simp only [write, read, here, apart.entry here, apart.entry (entry_relabel here tight)]
      | none => simp only [write, read, here, ih]

theorem write_comm (apart : Apart key other) {value' : List α} (tight : Tight blank value)
    (tight' : Tight blank value') :
    write key value (write other value' lines) = write other value' (write key value lines) := by
  induction lines with
  | nil => rfl
  | cons line lines ih =>
      cases here : entry other line with
      | some field =>
          simp only [write, here, apart.entry here, apart.entry (entry_relabel here tight')]
      | none =>
          cases there : entry key line with
          | some field =>
              simp only [write, here, there, apart.symm.entry (entry_relabel there tight)]
          | none => simp only [write, here, there, ih]

end RealityAI.Library.Header
