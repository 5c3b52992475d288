import RealityAI.Model.PromptLibrary

namespace RealityAI.Proof.Prompts
open Library Library.Header Library.Regex Model.Prompts

def ended (lines : List Text) : Text := lines.flatMap fun line => line ++ ['\n']

theorem ended_cons (line : Text) (lines : List Text) (s : Text) :
    ended (line :: lines) ++ s = line ++ '\n' :: (ended lines ++ s) := by
  simp [ended]

theorem ended_append (lines lines' : List Text) :
    ended (lines ++ lines') = ended lines ++ ended lines' := List.flatMap_append

variable {t : CharTables} {key : Key Char t.isSpace} {line label value old s : Text}

theorem prefix_line {p : Text} (unbroken : '\n' ∉ p) (line s : Text) :
    p <+: line ++ '\n' :: s ↔ p <+: line := by
  constructor
  · intro begins
    rcases List.prefix_or_prefix_of_prefix begins (List.prefix_append line _) with short | long
    · exact short
    · obtain ⟨q, same⟩ := long
      subst same
      cases q with
      | nil => simp
      | cons c q =>
          obtain ⟨same, -⟩ := List.cons_prefix_cons.mp (List.prefix_append_right_inj line |>.mp begins)
          simp [same] at unbroken
  · exact fun begins => begins.trans (List.prefix_append _ _)

theorem matchField_entry (unbroken : '\n' ∉ line) (found : entry key line = some (label, old))
    (some_value : old ≠ []) :
    matchField t key.text (line ++ '\n' :: s) = some (label, '\n' :: s) := by
  obtain ⟨same, ⟨indent, blanks, parts, before, between⟩, tight⟩ := entry_iff.mp found
  obtain ⟨c, later, cons⟩ := List.exists_cons_of_ne_nil some_value
  subst same parts cons
  have visible : t.isSpace c = false := tight c rfl
  have noBreak : c ≠ '\n' := by
    intro same
    subst same
    cases visible
  have sameLine : ∀ d ∈ later, (decide (d ≠ '\n')) = true := by
    intro d mem
    apply decide_eq_true
    intro same
    subst same
    exact unbroken (by simp [mem])
  have text : indent ++ key.text ++ blanks ++ c :: later ++ '\n' :: s =
      indent ++ (key.text ++ (blanks ++ c :: (later ++ '\n' :: s))) := by simp
  have named : (indent ++ key.text ++ blanks ++ c :: later ++ '\n' :: s).dropWhile t.isSpace =
      key.text ++ (blanks ++ c :: (later ++ '\n' :: s)) := by
    rw [text, List.dropWhile_append_of_pos before, (key.tight_append _).dropWhile]
  have indented : (indent ++ key.text ++ blanks ++ c :: later ++ '\n' :: s).takeWhile t.isSpace =
      indent := by
    rw [text, List.takeWhile_append_of_pos before, (key.tight_append _).takeWhile, List.append_nil]
  have spaces : (blanks ++ c :: (later ++ '\n' :: s)).takeWhile t.isSpace = blanks := by
    rw [List.takeWhile_append_of_pos between, List.takeWhile_cons_of_neg (by simp [visible]),
      List.append_nil]
  have taken : valueAt (blanks ++ c :: (later ++ '\n' :: s)) blanks.length =
      some (blanks, '\n' :: s) := by
    rw [valueAt, List.drop_left]
    simp only [if_neg noBreak, List.take_left, List.dropWhile_append_of_pos sameLine]
    rfl
  have greedy : backtrack (blanks ++ c :: (later ++ '\n' :: s)) blanks.length =
      some (blanks, '\n' :: s) := by
    cases n : blanks.length with
    | zero => rw [backtrack, ← n, taken]
    | succ n' => rw [backtrack, ← n, taken, Option.some_or]
  simp only [matchField, named, indented, List.prefix_append, if_true, List.drop_left, spaces, greedy,
    Option.map_some]

theorem matchField_blank (blank : ∀ c ∈ line, t.isSpace c = true) :
    matchField t key.text (line ++ '\n' :: s) =
      (matchField t key.text s).map fun (group, after) => (line ++ '\n' :: group, after) := by
  have named : (line ++ '\n' :: s).dropWhile t.isSpace = s.dropWhile t.isSpace := by
    rw [List.dropWhile_append_of_pos blank]
    exact List.dropWhile_cons_of_pos rfl
  have indented : (line ++ '\n' :: s).takeWhile t.isSpace = line ++ '\n' :: s.takeWhile t.isSpace := by
    rw [List.takeWhile_append_of_pos blank]
    exact congrArg (line ++ ·) (List.takeWhile_cons_of_pos rfl)
  simp only [matchField, named, indented]
  split
  · simp [Function.comp_def]
  · rfl

theorem matchField_other (keyed : '\n' ∉ key.text) {c : Char} (mem : c ∈ line)
    (visible : t.isSpace c = false) (other : entry key line = none) :
    matchField t key.text (line ++ '\n' :: s) = none := by
  have kept : line.dropWhile t.isSpace ≠ [] := by
    intro empty
    have blank := List.dropWhile_eq_nil_iff.mp empty c mem
    rw [visible] at blank
    cases blank
  have named : (line ++ '\n' :: s).dropWhile t.isSpace = line.dropWhile t.isSpace ++ '\n' :: s := by
    rw [List.dropWhile_append, if_neg (by simpa using kept)]
  have absent : ¬ key.text <+: line.dropWhile t.isSpace := by
    intro begins
    simp [entry, begins] at other
  simp only [matchField, named, prefix_line keyed, if_neg absent]

theorem substituted_false (unbroken : '\n' ∉ line) :
    substituted t key.text value false (line ++ '\n' :: s) =
      (substituted t key.text value true s).map fun text => line ++ '\n' :: text := by
  induction line with
  | nil => simp [substituted]
  | cons c line ih =>
      have here : c ≠ '\n' := fun same => unbroken (by simp [same])
      have later := ih (fun mem => unbroken (List.mem_cons_of_mem _ mem))
      simp [substituted, here, later, Function.comp_def]

theorem substituted_start (absent : matchField t key.text (line ++ '\n' :: s) = none) :
    substituted t key.text value true (line ++ '\n' :: s) =
      substituted t key.text value false (line ++ '\n' :: s) := by
  cases line with
  | nil => simp_all [substituted]
  | cons c line => simp_all [substituted]

theorem substituted_match {group after : Text} (found : matchField t key.text s = some (group, after)) :
    substituted t key.text value true s = some (group ++ value ++ after) := by
  cases s with
  | nil =>
      obtain ⟨c, text, same⟩ := List.exists_cons_of_ne_nil key.nonempty
      simp [matchField, same] at found
  | cons c s => simp [substituted, found]

theorem substituted_other (keyed : '\n' ∉ key.text) (unbroken : '\n' ∉ line)
    (other : entry key line = none) : substituted t key.text value true (line ++ '\n' :: s) =
      (substituted t key.text value true s).map fun text => line ++ '\n' :: text := by
  by_cases blank : ∀ c ∈ line, t.isSpace c = true
  · -- The blanks of the line may belong to a match that begins here and ends in a later line.
    cases found : matchField t key.text s with
    | some field =>
        have here : matchField t key.text (line ++ '\n' :: s) =
            some (line ++ '\n' :: field.1, field.2) := by rw [matchField_blank blank, found]; rfl
        rw [substituted_match here, substituted_match found]
        simp
    | none =>
        rw [substituted_start (by rw [matchField_blank blank, found]; rfl), substituted_false unbroken]
  · simp only [not_forall, Bool.not_eq_true] at blank
    obtain ⟨c, mem, visible⟩ := blank
    rw [substituted_start (matchField_other keyed mem visible other), substituted_false unbroken]

variable (value s) in
theorem substituted_header {lines : List Text} (keyed : '\n' ∉ key.text)
    (unbroken : ∀ line ∈ lines, '\n' ∉ line) (found : Header.read key lines = some old)
    (some_value : old ≠ []) : substituted t key.text value true (ended lines ++ s) =
      some (ended (write key value lines) ++ s) := by
  induction lines with
  | nil => cases found
  | cons line lines ih =>
      obtain ⟨here, later⟩ := List.forall_mem_cons.mp unbroken
      unfold Header.read at found
      cases field : entry key line with
      | some parts =>
          rw [field] at found
          cases found
          rw [ended_cons, substituted_match (matchField_entry here field some_value)]
          simp only [write, field]
          rw [ended_cons]
      | none =>
          rw [field] at found
          rw [ended_cons, substituted_other keyed here field, ih later found]
          simp only [write, field]
          rw [ended_cons]
          rfl

end RealityAI.Proof.Prompts
