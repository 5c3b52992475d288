import RealityAI.Proof.Prompts.Format

namespace RealityAI.Proof.Prompts
open Library Library.Header Library.Regex Python Model.Prompts

variable {t : CharTables}

theorem scalar_tight (v : Scalar t) : Tight t.isSpace v.text := by
  intro c first
  exact (v.plain c (List.mem_of_mem_head? first)).1

theorem scalar_unbroken (v : Scalar t) : '\n' ∉ v.text := by
  intro mem
  cases (v.plain '\n' mem).1

structure OneLine (key : Key Char t.isSpace) : Prop where
  unbroken : '\n' ∉ key.text
  colon : ':' ∈ key.text

theorem latestScore_line : OneLine (latestScore t) where
  unbroken := show '\n' ∉ "latest_score:".toList by simp
  colon := show ':' ∈ "latest_score:".toList by simp

theorem measuredAt_line : OneLine (measuredAt t) where
  unbroken := show '\n' ∉ "measured_at:".toList by simp
  colon := show ':' ∈ "measured_at:".toList by simp

theorem score_apart : Apart (latestScore t) (measuredAt t) :=
  ⟨show ¬ "latest_score:".toList <+: "measured_at:".toList by simp,
    show ¬ "measured_at:".toList <+: "latest_score:".toList by simp⟩

section
variable {key : Key Char t.isSpace}

theorem OneLine.label (line : OneLine key) {label : Text} (named : Label key label) : ':' ∈ label := by
  obtain ⟨indent, blanks, rfl, -, -⟩ := named
  simp [line.colon]

theorem OneLine.closing (line : OneLine key) : entry key closingLine = none := by
  cases found : entry key closingLine with
  | none => rfl
  | some field =>
      obtain ⟨same, named, -⟩ := entry_iff.mp found
      have inside : ':' ∈ closingLine := same ▸ List.mem_append_left _ (line.label named)
      simp [closingLine] at inside

def PromptFile.set (f : PromptFile) (key : Key Char t.isSpace) (line : OneLine key) (v : Scalar t) :
    PromptFile where
  header := write key v.text f.header
  rest := f.rest
  some_line := by
    intro none
    have kept : (write key v.text f.header).length = f.header.length := write_length v.text f.header
    rw [none] at kept
    exact f.some_line (List.eq_nil_of_length_eq_zero kept.symm)
  unbroken := by
    intro written mem
    rcases mem_write mem with kept | ⟨label, old, from_line, -, same⟩
    · exact f.unbroken written kept
    · have free : '\n' ∉ label := fun inside =>
        f.unbroken _ from_line (List.mem_append_left _ inside)
      simp [same, free, scalar_unbroken v]
  open_lines := by
    intro mem
    have inside : closingLine ∈ f.header.tail ∨ closingLine ∈ write key v.text f.header.tail := by
      rcases tail_write v.text f.header with same | same
      · exact .inl (same ▸ mem)
      · exact .inr (same ▸ mem)
    rcases inside with kept | written
    · exact f.open_lines kept
    · rcases mem_write written with kept | ⟨label, old, -, named, same⟩
      · exact f.open_lines kept
      · have colon : ':' ∈ closingLine := same ▸ List.mem_append_left _ (line.label named)
        simp [closingLine] at colon

def PromptFile.Has (f : PromptFile) (key : Key Char t.isSpace) : Prop :=
  ∃ value, Header.read key f.header = some value ∧ value ≠ []

theorem subn_set {f : PromptFile} (line : OneLine key) (has : f.Has key) (v : Scalar t) :
    subn t key.text v.text f.text = ((f.set key line v).text, 1) := by
  obtain ⟨old, found, some_value⟩ := has
  have opened (header : List Text) (s : Text) :
      opening ++ (ended header ++ s) = ended (closingLine :: header) ++ s := by
    rw [ended_cons]
    rfl
  have skipped (value : Text) : write key value (closingLine :: f.header) =
      closingLine :: write key value f.header := by
    simp only [write, line.closing]
  have read : Header.read key (closingLine :: f.header) = some old := by
    simp only [Header.read, line.closing, found]
  have written := substituted_header v.text (closingLine ++ '\n' :: f.rest)
    line.unbroken (List.forall_mem_cons.mpr ⟨show '\n' ∉ closingLine by simp [closingLine], f.unbroken⟩)
    read some_value
  rw [skipped, ← opened, ← opened] at written
  unfold subn
  rw [show substituted t key.text v.text true f.text = some (f.set key line v).text from written]

end

/-- The file in which the score and the time of a result are recorded. -/
def PromptFile.publish (f : PromptFile) (r : BenchResult t) : PromptFile :=
  (f.set (latestScore t) latestScore_line r.score).set (measuredAt t) measuredAt_line r.timestamp

variable {f : PromptFile} {r : BenchResult t}

structure PromptFile.Scored (f : PromptFile) (t : CharTables) : Prop where
  score : f.Has (latestScore t)
  time : f.Has (measuredAt t)

theorem has_set {key : Key Char t.isSpace} (line : OneLine key) (has : f.Has key) (v : Scalar t) :
    (f.set key line v).Has key := by
  obtain ⟨old, found, -⟩ := has
  exact ⟨v.text, read_write found (scalar_tight v), v.nonempty⟩

theorem has_set_other {key other : Key Char t.isSpace} (line : OneLine other)
    (apart : Apart key other) (v : Scalar t) : (f.set other line v).Has key ↔ f.Has key := by
  unfold PromptFile.Has PromptFile.set
  rw [read_write_other apart (scalar_tight v)]

theorem writeFrontmatterScore_publish (rt : Runtime) (id : PromptId) (scored : f.Scored t) :
    writeFrontmatterScore t rt id r f.text = .ok (f.publish r).text := by
  have time := (has_set_other latestScore_line score_apart.symm r.score).mpr scored.time
  unfold writeFrontmatterScore
  rw [subn_set latestScore_line scored.score r.score]
  dsimp only
  rw [subn_set measuredAt_line time r.timestamp]
  rfl

theorem scored_publish (scored : f.Scored t) : (f.publish r).Scored t where
  score := (has_set_other measuredAt_line score_apart r.timestamp).mpr
    (has_set latestScore_line scored.score r.score)
  time := has_set measuredAt_line
    ((has_set_other latestScore_line score_apart.symm r.score).mpr scored.time) r.timestamp

theorem publish_publish (f : PromptFile) (r r' : BenchResult t) :
    (f.publish r).publish r' = f.publish r' := by
  have headers : ((f.publish r).publish r').header = (f.publish r').header := by
    change write (measuredAt t) r'.timestamp.text (write (latestScore t) r'.score.text
      (write (measuredAt t) r.timestamp.text (write (latestScore t) r.score.text f.header))) = _
    rw [write_comm score_apart (scalar_tight r'.score) (scalar_tight r.timestamp),
      write_write (scalar_tight r.score), write_write (scalar_tight r.timestamp)]
    rfl
  exact PromptFile.ext headers rfl

/-- What a file reads as when a result is recorded in it: nothing else changes. -/
structure Records (f g : PromptFile) (r : BenchResult t) : Prop where
  score : Header.read (latestScore t) g.header = some r.score.text
  time : Header.read (measuredAt t) g.header = some r.timestamp.text
  others : ∀ key, Apart key (latestScore t) → Apart key (measuredAt t) →
    Header.read key g.header = Header.read key f.header
  lines : g.header.length = f.header.length
  rest : g.rest = f.rest

theorem publish_records (scored : f.Scored t) (r : BenchResult t) : Records f (f.publish r) r := by
  obtain ⟨⟨score, readScore, -⟩, time, readTime, -⟩ := scored
  refine ⟨?_, ?_, ?_, ?_, rfl⟩
  · exact (read_write_other score_apart (scalar_tight r.timestamp)).trans
      (read_write readScore (scalar_tight r.score))
  · have before : Header.read (measuredAt t) (write (latestScore t) r.score.text f.header) = some time :=
      (read_write_other score_apart.symm (scalar_tight r.score)).trans readTime
    exact read_write before (scalar_tight r.timestamp)
  · intro key score time
    exact (read_write_other time (scalar_tight r.timestamp)).trans
      (read_write_other score (scalar_tight r.score))
  · exact (write_length _ _).trans (write_length _ _)

end RealityAI.Proof.Prompts
