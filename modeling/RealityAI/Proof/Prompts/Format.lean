import RealityAI.Proof.Prompts.Substitution
import RealityAI.Library.Separated

namespace RealityAI.Proof.Prompts
open Library Library.Header Library.Regex Model.Prompts

def closingLine : Text := "---".toList

/-- A file with a frontmatter: its lines, and what follows the line that closes it. -/
@[ext] structure PromptFile where
  header : List Text
  rest : Text
  some_line : header ≠ []
  unbroken : ∀ line ∈ header, '\n' ∉ line
  open_lines : closingLine ∉ header.tail

def PromptFile.text (f : PromptFile) : Text :=
  opening ++ (ended f.header ++ (closingLine ++ '\n' :: f.rest))

def PromptFile.frontmatter (f : PromptFile) : Text := ['\n'].intercalate f.header

theorem cut_line {line : Text} (unbroken : '\n' ∉ line) (s : Text) : cut closing (line ++ '\n' :: s) =
    if opening <+: s then some (line, s.drop 4)
    else (cut closing s).map fun (before, after) => (line ++ '\n' :: before, after) := by
  induction line with
  | nil =>
      have begins : closing <+: '\n' :: s ↔ opening <+: s := by
        simp [closing, opening]
      simp only [List.nil_append, cut, begins]
      rfl
  | cons c line ih =>
      have here : ¬ closing <+: c :: (line ++ '\n' :: s) := by
        simp only [closing, String.reduceToList, List.cons_prefix_cons, not_and]
        intro same
        simp [← same] at unbroken
      rw [List.cons_append, cut, if_neg here, ih fun mem => unbroken (List.mem_cons_of_mem _ mem)]
      split
      · rfl
      · simp [Function.comp_def]

theorem opening_line {line : Text} (unbroken : '\n' ∉ line) (s : Text) :
    opening <+: line ++ '\n' :: s ↔ line = closingLine := by
  constructor
  · intro begins
    have dashes : closingLine <+: line ++ '\n' :: s := (List.prefix_append closingLine ['\n']).trans begins
    obtain ⟨q, same⟩ := (prefix_line (by decide) line s).mp dashes
    subst same
    cases q with
    | nil => exact List.append_nil _
    | cons c q =>
        rw [List.append_assoc] at begins
        have after : ['\n'] <+: (c :: q) ++ '\n' :: s :=
          (List.prefix_append_right_inj closingLine).mp begins
        obtain ⟨same, -⟩ := List.cons_prefix_cons.mp after
        subst same
        simp at unbroken
  · rintro rfl
    exact ⟨s, by simp [opening, closingLine]⟩

theorem cut_lines {lines : List Text} (some_line : lines ≠ []) (unbroken : ∀ line ∈ lines, '\n' ∉ line)
    (open_lines : closingLine ∉ lines.tail) (rest : Text) :
    cut closing (ended lines ++ (closingLine ++ '\n' :: rest)) =
      some (['\n'].intercalate lines, rest) := by
  induction lines with
  | nil => exact absurd rfl some_line
  | cons line lines ih =>
      obtain ⟨here, later⟩ := List.forall_mem_cons.mp unbroken
      rw [ended_cons, cut_line here]
      cases lines with
      | nil =>
          rw [if_pos ⟨rest, by simp [ended, opening, closingLine]⟩]
          simp [ended, closingLine]
      | cons next lines =>
          have goesOn : ¬ opening <+: ended (next :: lines) ++ (closingLine ++ '\n' :: rest) := by
            rw [ended_cons, opening_line (later next List.mem_cons_self)]
            exact fun same => open_lines (by simp [← same])
          rw [if_neg goesOn, ih (List.cons_ne_nil _ _) later
            fun mem => open_lines (List.mem_cons_of_mem _ mem)]
          simp

theorem frontmatter_text (f : PromptFile) : frontmatter f.text = some (f.frontmatter, f.rest) :=
  cut_lines f.some_line f.unbroken f.open_lines f.rest

theorem cut_some {sep s before after : Text} (found : cut sep s = some (before, after)) :
    s = before ++ (sep ++ after) ∧ ∀ x y, s = x ++ (sep ++ y) → before.length ≤ x.length := by
  induction s generalizing before with
  | nil =>
      unfold cut at found
      split at found
      · rename_i empty
        cases found
        simp [empty]
      · cases found
  | cons c s ih =>
      unfold cut at found
      split at found
      · rename_i begins
        obtain ⟨rest, same⟩ := begins
        rw [← same, List.drop_left] at found
        cases found
        exact ⟨same.symm, fun _ _ _ => Nat.zero_le _⟩
      · rename_i later
        obtain ⟨⟨before', after'⟩, found, same⟩ := Option.map_eq_some_iff.mp found
        cases same
        obtain ⟨text, first⟩ := ih found
        refine ⟨by rw [text, List.cons_append], fun x y same => ?_⟩
        cases x with
        | nil => exact absurd ⟨y, same.symm⟩ later
        | cons d x => exact Nat.succ_le_succ (first x y (List.cons.inj same).2)

theorem ended_intercalate {lines : List Text} (some_line : lines ≠ []) :
    ended lines = ['\n'].intercalate lines ++ ['\n'] := by
  induction lines with
  | nil => exact absurd rfl some_line
  | cons line lines ih =>
      cases lines with
      | nil => simp [ended]
      | cons next lines =>
          have later := ih (List.cons_ne_nil _ _)
          simp_all [ended]

theorem exists_file {text fm rest : Text} (opens : opening <+: text)
    (found : frontmatter text = some (fm, rest)) :
    ∃ f : PromptFile, f.text = text ∧ f.frontmatter = fm ∧ f.rest = rest := by
  obtain ⟨inner, same⟩ := opens
  subst same
  obtain ⟨parts, first⟩ := cut_some found
  replace parts : inner = fm ++ (closing ++ rest) := parts
  have lines : fm.splitOn '\n' ≠ [] := List.splitOn_ne_nil _ _
  have joined : ended (fm.splitOn '\n') = fm ++ ['\n'] := by
    rw [ended_intercalate lines, List.intercalate_splitOn]
  refine ⟨⟨fm.splitOn '\n', rest, lines, fun line => notMem_of_mem_splitOn, ?_⟩, ?_, ?_, rfl⟩
  · intro mem
    obtain ⟨head, tail, split⟩ := List.exists_cons_of_ne_nil lines
    rw [split] at mem joined
    obtain ⟨before, after, same⟩ := List.append_of_mem mem
    -- An inner closing line would have been found first.
    have earlier : ended (head :: tail) =
        ['\n'].intercalate (head :: before) ++ (closing ++ ended after) := by
      rw [show tail = before ++ closingLine :: after from same, ← List.cons_append, ended_append,
        ended_intercalate (List.cons_ne_nil _ _)]
      simp [ended, closing, closingLine]
    have text : fm ++ ['\n'] = ['\n'].intercalate (head :: before) ++ (closing ++ ended after) :=
      joined.symm.trans earlier
    have bound := first (['\n'].intercalate (head :: before))
      (ended after ++ (closingLine ++ '\n' :: rest)) (by
        calc inner = (fm ++ ['\n']) ++ (closingLine ++ '\n' :: rest) := by
              rw [parts]; simp [closing, closingLine]
          _ = _ := by rw [text]; simp)
    have lengths := congrArg List.length text
    rw [List.length_append, List.length_append, List.length_append,
      show closing.length = 5 from rfl, List.length_singleton] at lengths
    omega
  · change opening ++ (ended (fm.splitOn '\n') ++ (closingLine ++ '\n' :: rest)) = opening ++ inner
    rw [joined, parts]
    simp [closing, closingLine]
  · exact List.intercalate_splitOn '\n'

/-- The texts in which a frontmatter is found are the files whose lines are closed by the first inner
line of dashes, and such a file is put together again from what is found in it. -/
theorem frontmatter_iff (text fm rest : Text) :
    opening <+: text ∧ frontmatter text = some (fm, rest) ↔
      ∃ f : PromptFile, f.text = text ∧ f.frontmatter = fm ∧ f.rest = rest := by
  constructor
  · rintro ⟨opens, found⟩
    exact exists_file opens found
  · rintro ⟨f, rfl, rfl, rfl⟩
    exact ⟨List.prefix_append _ _, frontmatter_text f⟩

end RealityAI.Proof.Prompts
