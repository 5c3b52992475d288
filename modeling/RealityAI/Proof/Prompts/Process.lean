import RealityAI.Proof.Prompts.Publication

namespace RealityAI.Proof.Prompts
open Library Library.Header Library.Regex Python Model.Prompts

variable {μ : Type} {rt : Runtime} {yaml : Yaml μ} {promptsDir : String}

/-! ## One load -/

section
variable (rt yaml promptsDir)

theorem loadCached_cases (s : ProcessState μ) (id : PromptId) :
    (∃ p, s.cached id = some p ∧ loadCached rt yaml promptsDir s id = (.ok p, s)) ∨
    (s.cached id = none ∧ ∃ e, loadCached rt yaml promptsDir s id = (.error e, s)) ∨
    (s.cached id = none ∧ ∃ p, parse rt yaml promptsDir s.files id = .ok p ∧
      loadCached rt yaml promptsDir s id =
        (.ok p, { s with cached := Function.update s.cached id (some p) })) := by
  unfold loadCached
  cases cached : s.cached id with
  | some p => exact .inl ⟨p, rfl, rfl⟩
  | none =>
      cases parsed : parse rt yaml promptsDir s.files id with
      | error e => exact .inr (.inl ⟨rfl, e, rfl⟩)
      | ok p => exact .inr (.inr ⟨rfl, p, rfl, rfl⟩)

theorem loadCached_files (s : ProcessState μ) (id : PromptId) :
    (loadCached rt yaml promptsDir s id).2.files = s.files := by
  rcases loadCached_cases rt yaml promptsDir s id with ⟨_, -, same⟩ | ⟨-, _, same⟩ | ⟨-, _, -, same⟩ <;>
    rw [same]

theorem loadCached_returns {s : ProcessState μ} {id : PromptId} {p : Prompt μ}
    (ok : (loadCached rt yaml promptsDir s id).1 = .ok p) :
    (loadCached rt yaml promptsDir s id).2.cached id = some p := by
  rcases loadCached_cases rt yaml promptsDir s id with
    ⟨p', cached, same⟩ | ⟨-, e, same⟩ | ⟨-, p', -, same⟩ <;> rw [same] at ok ⊢
  · cases ok
    exact cached
  · cases ok
  · cases ok
    exact Function.update_self ..

theorem loadCached_fails {s : ProcessState μ} {id : PromptId} {e : PromptError}
    (error : (loadCached rt yaml promptsDir s id).1 = .error e) : s.cached id = none := by
  rcases loadCached_cases rt yaml promptsDir s id with
    ⟨p', -, same⟩ | ⟨missing, e, -⟩ | ⟨missing, p', -⟩
  · rw [same] at error
    cases error
  · exact missing
  · exact missing

theorem loadCached_keeps {s : ProcessState μ} {other : PromptId} {p : Prompt μ}
    (cached : s.cached other = some p) (id : PromptId) :
    (loadCached rt yaml promptsDir s id).2.cached other = some p := by
  rcases loadCached_cases rt yaml promptsDir s id with
    ⟨p', -, same⟩ | ⟨-, e, same⟩ | ⟨missing, p', -, same⟩ <;> rw [same]
  · exact cached
  · exact cached
  · refine (Function.update_of_ne ?_ _ _).trans cached
    rintro rfl
    rw [missing] at cached
    cases cached

theorem loadCached_source {s : ProcessState μ} {id other : PromptId} {p : Prompt μ}
    (after : (loadCached rt yaml promptsDir s id).2.cached other = some p) :
    s.cached other = some p ∨
      other = id ∧ s.cached id = none ∧ parse rt yaml promptsDir s.files id = .ok p := by
  rcases loadCached_cases rt yaml promptsDir s id with
    ⟨p', -, same⟩ | ⟨-, e, same⟩ | ⟨missing, p', parsed, same⟩ <;> rw [same] at after
  · exact .inl after
  · exact .inl after
  · by_cases here : other = id
    · subst here
      simp only [Function.update_self] at after
      cases after
      exact .inr ⟨rfl, missing, parsed⟩
    · exact .inl ((Function.update_of_ne here _ _).symm.trans after)

end

/-! ## What a process answers -/

/-- A load that returns, returns what is cached. -/
def AnsweredFrom (cached : PromptId → Option (Prompt μ)) : PromptAnswer μ → Prop
  | .body id (.ok a) => ∃ p, cached id = some p ∧ p.body = a
  | .metadata id (.ok m) => ∃ p, cached id = some p ∧ p.metadata = m
  | _ => True

def Serves (id : PromptId) : PromptAnswer μ → Prop
  | .body i (.ok _) => i = id
  | .metadata i (.ok _) => i = id
  | _ => False

def Fails (id : PromptId) : PromptAnswer μ → Prop
  | .body i (.error _) => i = id
  | .metadata i (.error _) => i = id
  | _ => False

theorem AnsweredFrom.mono {cached later : PromptId → Option (Prompt μ)}
    (keeps : ∀ id p, cached id = some p → later id = some p) {e : PromptAnswer μ}
    (answered : AnsweredFrom cached e) : AnsweredFrom later e := by
  unfold AnsweredFrom at answered ⊢
  split
  · obtain ⟨p, found, same⟩ := answered
    exact ⟨p, keeps _ p found, same⟩
  · obtain ⟨p, found, same⟩ := answered
    exact ⟨p, keeps _ p found, same⟩
  · trivial

theorem AnsweredFrom.served {cached : PromptId → Option (Prompt μ)} {e : PromptAnswer μ}
    (answered : AnsweredFrom cached e) {id : PromptId} (serves : Serves id e) : cached id ≠ none := by
  unfold Serves at serves
  split at serves
  · subst serves
    obtain ⟨p, found, -⟩ := answered
    simp [found]
  · subst serves
    obtain ⟨p, found, -⟩ := answered
    simp [found]
  · exact serves.elim

theorem step_keeps {s : ProcessState μ} {id : PromptId} {p : Prompt μ} (cached : s.cached id = some p)
    (c : PromptCall rt.tables) :
    ((promptProcess rt yaml promptsDir).step s c).1.cached id = some p := by
  cases c with
  | loadPrompt other => exact loadCached_keeps rt yaml promptsDir cached other
  | loadPromptMeta other => exact loadCached_keeps rt yaml promptsDir cached other
  | writeFrontmatterScore other result =>
      simp only [promptProcess, takeCall]
      split
      · exact cached
      · split
        · exact cached
        · exact cached
  | edit other text => exact cached
  | retire other retired => exact cached

theorem answered_load (s : ProcessState μ) (id : PromptId)
    (answer : Except PromptError (Prompt μ) → PromptAnswer μ)
    (returned : ∀ p (cached : PromptId → Option (Prompt μ)), cached id = some p →
      AnsweredFrom cached (answer (.ok p)) ∧ ∀ i, ¬ Fails i (answer (.ok p)))
    (raised : ∀ e (cached : PromptId → Option (Prompt μ)),
      AnsweredFrom cached (answer (.error e)) ∧ ∀ i, Fails i (answer (.error e)) → i = id) :
    AnsweredFrom (loadCached rt yaml promptsDir s id).2.cached
        (answer (loadCached rt yaml promptsDir s id).1) ∧
      ∀ i, Fails i (answer (loadCached rt yaml promptsDir s id).1) → s.cached i = none := by
  cases loaded : (loadCached rt yaml promptsDir s id).1 with
  | ok p =>
      obtain ⟨answered, never⟩ := returned p _ (loadCached_returns rt yaml promptsDir loaded)
      exact ⟨answered, fun i fails => absurd fails (never i)⟩
  | error e =>
      obtain ⟨answered, only⟩ := raised e (loadCached rt yaml promptsDir s id).2.cached
      refine ⟨answered, fun i fails => ?_⟩
      rw [only i fails]
      exact loadCached_fails rt yaml promptsDir loaded

theorem step_answers (s : ProcessState μ) (c : PromptCall rt.tables) :
    ∀ e ∈ ((promptProcess rt yaml promptsDir).step s c).2,
      AnsweredFrom ((promptProcess rt yaml promptsDir).step s c).1.cached e ∧
        ∀ id, Fails id e → s.cached id = none := by
  cases c with
  | loadPrompt id =>
      intro e mem
      cases List.mem_singleton.mp mem
      exact answered_load s id (fun answer => .body id (answer.map fun prompt => prompt.body))
        (fun p _ found => ⟨⟨p, found, rfl⟩, fun _ => False.elim⟩) (fun _ _ => ⟨trivial, fun _ same => same.symm⟩)
  | loadPromptMeta id =>
      intro e mem
      cases List.mem_singleton.mp mem
      exact answered_load s id (fun answer => .metadata id (answer.map fun prompt => prompt.metadata))
        (fun p _ found => ⟨⟨p, found, rfl⟩, fun _ => False.elim⟩) (fun _ _ => ⟨trivial, fun _ same => same.symm⟩)
  | writeFrontmatterScore id result =>
      intro e mem
      simp only [promptProcess, takeCall] at mem ⊢
      split at mem
      · cases List.mem_singleton.mp mem
        exact ⟨trivial, fun _ => False.elim⟩
      · split at mem
        · cases List.mem_singleton.mp mem
          exact ⟨trivial, fun _ => False.elim⟩
        · cases List.mem_singleton.mp mem
          exact ⟨trivial, fun _ => False.elim⟩
  | edit id text => exact List.forall_mem_nil _
  | retire id retired => exact List.forall_mem_nil _

/-! ## Every run -/

def Answered (log : List (PromptAnswer μ)) (s : ProcessState μ) : Prop :=
  ∀ e ∈ log, AnsweredFrom s.cached e

def FailsFirst (log : List (PromptAnswer μ)) (e : PromptAnswer μ) : Prop :=
  ∀ id, Fails id e → ∀ earlier ∈ log, ¬ Serves id earlier

section
variable (rt yaml promptsDir)

theorem answered_step {log : List (PromptAnswer μ)} {s : ProcessState μ} (c : PromptCall rt.tables)
    (answered : Answered log s) : Answered (log ++ ((promptProcess rt yaml promptsDir).step s c).2)
      ((promptProcess rt yaml promptsDir).step s c).1 := by
  intro e mem
  rcases List.mem_append.mp mem with earlier | now
  · exact (answered e earlier).mono fun _ _ cached => step_keeps cached c
  · exact (step_answers s c e now).1

theorem failsFirst_step {log : List (PromptAnswer μ)} {s : ProcessState μ} (c : PromptCall rt.tables)
    (answered : Answered log s) :
    Machine.Each FailsFirst log ((promptProcess rt yaml promptsDir).step s c).2 := by
  have here : ∀ e ∈ ((promptProcess rt yaml promptsDir).step s c).2, FailsFirst log e := by
    intro e mem id fails earlier before serves
    exact (answered earlier before).served serves ((step_answers s c e mem).2 id fails)
  have short : ((promptProcess rt yaml promptsDir).step s c).2.length ≤ 1 := by
    cases c with
    | writeFrontmatterScore id result =>
        simp only [promptProcess, takeCall]
        split
        · exact Nat.le_refl 1
        · split <;> exact Nat.le_refl 1
    | _ => simp [promptProcess, takeCall]
  cases events : ((promptProcess rt yaml promptsDir).step s c).2 with
  | nil => trivial
  | cons e later =>
      rw [events] at here short
      obtain rfl : later = [] := List.eq_nil_of_length_eq_zero (by simpa using short)
      exact ⟨here e List.mem_cons_self, trivial⟩

variable (files : PromptFiles) (cs : List (PromptCall rt.tables))

theorem answered_run : Answered ((promptProcess rt yaml promptsDir).run (started files) cs).2
    ((promptProcess rt yaml promptsDir).run (started files) cs).1 := by
  have start : Answered [] (started files : ProcessState μ) := List.forall_mem_nil _
  exact Machine.run_logged (fun _ _ c _ answered => answered_step rt yaml promptsDir c answered)
    (Machine.along_true _ _ cs) start

theorem step_source {s : ProcessState μ} {c : PromptCall rt.tables} {id : PromptId} {p : Prompt μ}
    (after : ((promptProcess rt yaml promptsDir).step s c).1.cached id = some p) :
    s.cached id = some p ∨ (c = .loadPrompt id ∨ c = .loadPromptMeta id) ∧
      s.cached id = none ∧ parse rt yaml promptsDir s.files id = .ok p := by
  cases c with
  | loadPrompt other =>
      rcases loadCached_source rt yaml promptsDir after with before | ⟨rfl, read⟩
      · exact .inl before
      · exact .inr ⟨.inl rfl, read⟩
  | loadPromptMeta other =>
      rcases loadCached_source rt yaml promptsDir after with before | ⟨rfl, read⟩
      · exact .inl before
      · exact .inr ⟨.inr rfl, read⟩
  | writeFrontmatterScore other result =>
      simp only [promptProcess, takeCall] at after
      split at after
      · exact .inl after
      · split at after
        · exact .inl after
        · exact .inl after
  | edit other text => exact .inl after
  | retire other retired => exact .inl after

/-- A load reads the prompt from its file as it is then, and nothing of it has been returned before. -/
def ReadFirst (id : PromptId) (p : Prompt μ) : Prop :=
  ∃ before c, before ++ [c] <+: cs ∧ (c = .loadPrompt id ∨ c = .loadPromptMeta id) ∧
    parse rt yaml promptsDir
      ((promptProcess rt yaml promptsDir).run (started files) before).1.files id = .ok p ∧
    ∀ e ∈ ((promptProcess rt yaml promptsDir).run (started files) before).2, ¬ Serves id e

theorem cached_read {id : PromptId} {p : Prompt μ}
    (cached : ((promptProcess rt yaml promptsDir).run (started files) cs).1.cached id = some p) :
    ReadFirst rt yaml promptsDir files cs id p := by
  induction cs using List.reverseRecOn with
  | nil => cases cached
  | append_singleton done c ih =>
      rw [Machine.run_append] at cached
      rcases step_source rt yaml promptsDir cached with before | ⟨load, missing, parsed⟩
      · obtain ⟨before, c', start, read⟩ := ih before
        exact ⟨before, c', start.trans (List.prefix_append _ _), read⟩
      · refine ⟨done, c, List.prefix_rfl, load, parsed, fun e mem serves => ?_⟩
        exact (answered_run rt yaml promptsDir files done e mem).served serves missing

/-- A process reads a prompt once: whatever is written, removed or retired meanwhile, all that is
returned of it is what the first load that returns has read from its file, and no load fails
afterwards. -/
theorem prompts_read_once :
    (∃ prompts, (∀ id p, prompts id = some p → ReadFirst rt yaml promptsDir files cs id p) ∧
      ∀ e ∈ ((promptProcess rt yaml promptsDir).run (started files) cs).2,
        AnsweredFrom prompts e) ∧
    ∀ id before e after,
      ((promptProcess rt yaml promptsDir).run (started files) cs).2 = before ++ e :: after →
        Fails id e → ∀ earlier ∈ before, ¬ Serves id earlier := by
  refine ⟨⟨_, fun id p => cached_read rt yaml promptsDir files cs,
    answered_run rt yaml promptsDir files cs⟩, ?_⟩
  intro id before e after split fails
  have start : Answered [] (started files : ProcessState μ) := List.forall_mem_nil _
  have each := Machine.run_emits
    (fun _ _ c _ answered => answered_step rt yaml promptsDir c answered)
    (fun _ _ c _ answered => failsFirst_step rt yaml promptsDir c answered)
    (Machine.along_true _ _ cs) start
  rw [split] at each
  exact each.split id fails

end

/-! ## Published scores -/

def PromptFile.body (f : PromptFile) : Text := f.rest.dropWhile fun c => c = '\n'

theorem parse_body {files : PromptFiles} {id : PromptId} {f : PromptFile} {p : Prompt μ}
    (here : files.canonical id = some f.text) (parsed : parse rt yaml promptsDir files id = .ok p) :
    p.body = f.body := by
  have opens : opening <+: f.text := List.prefix_append _ _
  unfold parse at parsed
  rw [here] at parsed
  dsimp only at parsed
  rw [parseText, if_pos opens, frontmatter_text] at parsed
  dsimp only at parsed
  split at parsed
  · cases parsed
  · cases parsed
    rfl

def results (id : PromptId) (cs : List (PromptCall rt.tables)) : List (BenchResult rt.tables) :=
  cs.filterMap fun c =>
    match c with
    | .writeFrontmatterScore i r => if i = id then some r else none
    | _ => none

theorem publishAll_scored {f : PromptFile} (scored : f.Scored rt.tables)
    (rs : List (BenchResult rt.tables)) : (rs.foldl PromptFile.publish f).Scored rt.tables := by
  induction rs generalizing f with
  | nil => exact scored
  | cons r rs ih => exact ih (scored_publish scored)

theorem publishAll_rest (f : PromptFile) (rs : List (BenchResult rt.tables)) :
    (rs.foldl PromptFile.publish f).rest = f.rest := by
  induction rs generalizing f with
  | nil => rfl
  | cons r rs ih => exact ih (f.publish r)

theorem publishAll_last (f : PromptFile) (rs : List (BenchResult rt.tables))
    (last : BenchResult rt.tables) :
    (rs ++ [last]).foldl PromptFile.publish f = f.publish last := by
  rw [List.foldl_append]
  induction rs generalizing f with
  | nil => rfl
  | cons r rs ih => exact (ih (f.publish r)).trans (publish_publish f r last)

structure Published (id : PromptId) (f : PromptFile) (done : List (PromptCall rt.tables))
    (s : ProcessState μ) : Prop where
  file : s.files.canonical id = some ((results id done).foldl PromptFile.publish f).text
  cached : ∀ p, s.cached id = some p → p.body = f.body

theorem published_load {id : PromptId} {f : PromptFile} {done : List (PromptCall rt.tables)}
    {s : ProcessState μ} (published : Published id f done s) (other : PromptId) :
    Published id f done (loadCached rt yaml promptsDir s other).2 where
  file := by rw [loadCached_files, published.file]
  cached p after := by
    rcases loadCached_source rt yaml promptsDir after with before | ⟨rfl, -, parsed⟩
    · exact published.cached p before
    · refine (parse_body published.file parsed).trans ?_
      rw [PromptFile.body, publishAll_rest]
      rfl

theorem Published.other {id : PromptId} {f : PromptFile} {done : List (PromptCall rt.tables)}
    {s : ProcessState μ} (published : Published id f done s) {c : PromptCall rt.tables}
    (none : results id [c] = []) : Published id f (done ++ [c]) s where
  file := by
    rw [results, List.filterMap_append]
    rw [results] at none
    rw [none, List.append_nil]
    exact published.file
  cached := published.cached

theorem Published.put {id other : PromptId} {f : PromptFile} {done : List (PromptCall rt.tables)}
    {s : ProcessState μ} (published : Published id f done s) (apart : other ≠ id)
    (text : Option Text) : Published id f done { s with files := s.files.put other text } where
  file := (Function.update_of_ne apart.symm _ _).trans published.file
  cached := published.cached

theorem published_step {id : PromptId} {f : PromptFile} (scored : f.Scored rt.tables)
    {done : List (PromptCall rt.tables)} {s : ProcessState μ} {c : PromptCall rt.tables}
    (untouched : ∀ text, c ≠ .edit id text) (published : Published id f done s) :
    Published id f (done ++ [c]) ((promptProcess rt yaml promptsDir).step s c).1 := by
  cases c with
  | loadPrompt other => exact (published_load published other).other rfl
  | loadPromptMeta other => exact (published_load published other).other rfl
  | edit other text =>
      have apart : other ≠ id := by
        rintro rfl
        exact untouched text rfl
      exact (published.put apart text).other rfl
  | retire other retired =>
      have kept : Published id f done (takeCall rt yaml promptsDir s (.retire other retired)).1 :=
        ⟨published.file, published.cached⟩
      exact kept.other rfl
  | writeFrontmatterScore other r =>
      simp only [promptProcess, takeCall]
      by_cases here : other = id
      · subst here
        rw [published.file]
        dsimp only
        rw [writeFrontmatterScore_publish rt other (publishAll_scored scored _)]
        refine ⟨?_, published.cached⟩
        have last : results other (done ++ [.writeFrontmatterScore other r]) =
            results other done ++ [r] := by simp [results, List.filterMap_append]
        rw [last, List.foldl_append]
        exact Function.update_self ..
      · have none : results id [PromptCall.writeFrontmatterScore other r] = [] := by
          simp [results, here]
        split
        · exact published.other none
        · split
          · exact published.other none
          · exact (published.put here _).other none

/-- Publishing scores never changes a prompt: a file that has both fields ends up with the last
result in them and nothing else changed, and everybody is served the body that it started with. -/
theorem prompt_published (rt : Runtime) (yaml : Yaml μ) (promptsDir : String) (files : PromptFiles)
    {id : PromptId} {f : PromptFile} (scored : f.Scored rt.tables)
    (here : files.canonical id = some f.text) (cs : List (PromptCall rt.tables))
    (untouched : ∀ text, .edit id text ∉ cs) :
    (∃ g : PromptFile,
      ((promptProcess rt yaml promptsDir).run (started files) cs).1.files.canonical id = some g.text ∧
      g.body = f.body ∧ match (results id cs).getLast? with
        | none => g = f
        | some r => Records f g r) ∧
    ∀ b, .body id (.ok b) ∈ ((promptProcess rt yaml promptsDir).run (started files) cs).2 →
      b = f.body := by
  have along : (promptProcess rt yaml promptsDir).Along (fun _ c => ∀ text, c ≠ .edit id text)
      (started files) cs := by
    refine Machine.along_iff.mpr fun before c initial text same => ?_
    subst same
    exact untouched text (initial.subset (List.mem_append_right _ List.mem_cons_self))
  have start : Published id f ([] : List (PromptCall rt.tables)) (started files : ProcessState μ) :=
    ⟨here, fun p none => by cases none⟩
  have step (done : List (PromptCall rt.tables)) (s : ProcessState μ) (c : PromptCall rt.tables)
      (untouched : ∀ text, c ≠ .edit id text) (published : Published id f done s) :
      Published id f (done ++ [c]) ((promptProcess rt yaml promptsDir).step s c).1 :=
    published_step scored untouched published
  have published := Machine.run_history step along start
  rw [List.nil_append] at published
  refine ⟨⟨_, published.file, congrArg (List.dropWhile fun c => c = '\n') (publishAll_rest f _), ?_⟩, ?_⟩
  · cases last : (results id cs).getLast? with
    | none =>
        rw [List.getLast?_eq_none_iff.mp last]
        rfl
    | some r =>
        obtain ⟨before, same⟩ := List.getLast?_eq_some_iff.mp last
        rw [same, publishAll_last]
        exact publish_records scored r
  · intro b mem
    obtain ⟨p, cached, same⟩ := answered_run rt yaml promptsDir files cs _ mem
    exact same.symm.trans (published.cached p cached)

def queryPrompt : PromptFile where
  header := ["id: query_agent".toList, "performance:".toList, "  latest_score: 0.5".toList,
    "  measured_at: 2026-05-07".toList]
  rest := "\nYou route queries.\n".toList
  some_line := List.cons_ne_nil _ _
  unbroken := by simp
  open_lines := by simp [closingLine]

def perfectScore : BenchResult Runtime.ascii.tables where
  score := ⟨"1.0".toList, by simp, by simp; decide⟩
  timestamp := ⟨"2026-05-08T10:00:00".toList, by simp, by simp; decide⟩

def queryAgentId : PromptId := ⟨"query_agent", by decide, by decide⟩

def queryFiles : PromptFiles where
  canonical id := if id = queryAgentId then some queryPrompt.text else none
  retired _ := false

theorem query_prompt_published : ∃ g : PromptFile,
    ((promptProcess Runtime.ascii ⟨fun _ => .ok (), fun _ => true, ()⟩ "prompts").run
      (started queryFiles) [.loadPrompt queryAgentId, .writeFrontmatterScore queryAgentId perfectScore,
        .loadPrompt queryAgentId]).1.files.canonical queryAgentId = some g.text ∧
    g.body = queryPrompt.body ∧ Records queryPrompt g perfectScore := by
  have scored : queryPrompt.Scored Runtime.ascii.tables := by
    constructor
    · exact ⟨"0.5".toList, by decide, by simp⟩
    · exact ⟨"2026-05-07".toList, by decide, by simp⟩
  have here : queryFiles.canonical queryAgentId = some queryPrompt.text := rfl
  obtain ⟨g, file, body, records⟩ := (prompt_published Runtime.ascii ⟨fun _ => .ok (), fun _ => true, ()⟩
    "prompts" queryFiles scored here [.loadPrompt queryAgentId,
      .writeFrontmatterScore queryAgentId perfectScore, .loadPrompt queryAgentId] (by simp)).1
  exact ⟨g, file, body, records⟩

end RealityAI.Proof.Prompts
