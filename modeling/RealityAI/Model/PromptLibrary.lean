import RealityAI.Library.Header
import RealityAI.Library.Run
import RealityAI.Python.Value

/-!
# `prompts/__init__.py`, and `tools/prompt_bench.py` where it writes a score

A file is the text that `read_text` gives. What `yaml.safe_load` makes of a frontmatter is a parameter.
-/

namespace RealityAI.Model.Prompts
open Library Library.Regex Library.Header Python

abbrev Text := List Char

/-- The id of a file in the directory of the prompts itself. -/
structure PromptId where
  text : String
  nonempty : text ≠ ""
  plain : '/' ∉ text.toList
  deriving DecidableEq

def PromptId.fileName (id : PromptId) : String := id.text ++ ".md"

inductive PromptError where
  | fileNotFound (text : String)
  | valueError (text : String)
  | yaml (text : String)
  deriving DecidableEq, Repr

structure Yaml (μ : Type) where
  safeLoad : Text → Except String μ
  truthy : μ → Bool
  empty : μ

structure Prompt (μ : Type) where
  metadata : μ
  body : Text

/-- `prompts/<id>.md`, and whether `prompts/_retired/<id>.md` exists. -/
structure PromptFiles where
  canonical : PromptId → Option Text
  retired : PromptId → Bool

/-! ## Reading -/

def cut (sep : Text) : Text → Option (Text × Text)
  | [] => if sep = [] then some ([], []) else none
  | c :: s =>
      if sep <+: c :: s then some ([], (c :: s).drop sep.length)
      else (cut sep s).map fun (before, after) => (c :: before, after)

def opening : Text := "---\n".toList

def closing : Text := "\n---\n".toList

/-- `text[4:end]` and `text[end + 5:]`. -/
def frontmatter (text : Text) : Option (Text × Text) := cut closing (text.drop 4)

section
variable {μ : Type} (rt : Runtime) (yaml : Yaml μ) (promptsDir : String)

def path (id : PromptId) : String := promptsDir ++ "/" ++ id.fileName

def parseText (id : PromptId) (text : Text) : Except PromptError (Prompt μ) :=
  if opening <+: text then
    match frontmatter text with
    | none => .error (.valueError ("prompt " ++ rt.reprStr id.text ++
        " has malformed frontmatter (missing closing `---` delimiter)"))
    | some (fmText, rest) =>
        match yaml.safeLoad fmText with
        | .error e => .error (.yaml e)
        | .ok loaded =>
            .ok ⟨if yaml.truthy loaded then loaded else yaml.empty, rest.dropWhile fun c => c = '\n'⟩
  else .ok ⟨yaml.empty, text⟩

def parse (files : PromptFiles) (id : PromptId) : Except PromptError (Prompt μ) :=
  match files.canonical id with
  | some text => parseText rt yaml id text
  | none =>
      if files.retired id then
        .error (.fileNotFound ("prompt " ++ rt.reprStr id.text ++ " was retired (see prompts/_retired/" ++
          id.fileName ++ "). Update the call site to use the replacement, or restore the prompt to " ++
          path promptsDir id ++ " explicitly if revival is intentional."))
      else .error (.fileNotFound ("prompt not found: " ++ id.text ++ " (" ++ path promptsDir id ++ ")"))

end

/-! ## Writing a score -/

section
variable (t : CharTables)

/-- How `\s*.+$` divides what follows the key when `\s*` takes `n` characters. -/
def valueAt (rest : Text) (n : Nat) : Option (Text × Text) :=
  match rest.drop n with
  | [] => none
  | c :: later =>
      if c = '\n' then none else some (rest.take n, later.dropWhile fun c => c ≠ '\n')

def backtrack (rest : Text) : Nat → Option (Text × Text)
  | 0 => valueAt rest 0
  | n + 1 => (valueAt rest (n + 1)).or (backtrack rest n)

/-- `(\s*key\s*).+$` at the start of a line: its group and the text after the match. -/
def matchField (key : Text) (s : Text) : Option (Text × Text) :=
  let named := s.dropWhile t.isSpace
  if key <+: named then
    let rest := named.drop key.length
    (backtrack rest (rest.takeWhile t.isSpace).length).map fun (blanks, after) =>
      (s.takeWhile t.isSpace ++ key ++ blanks, after)
  else none

def substituted (key value : Text) : Bool → Text → Option Text
  | _, [] => none
  | lineStart, c :: s =>
      match if lineStart then matchField t key (c :: s) else none with
      | some (group, after) => some (group ++ value ++ after)
      | none => (substituted key value (c = '\n') s).map (c :: ·)

/-- `re.compile(r"^(\s*key\s*).+$", flags=re.MULTILINE).subn(rf"\g<1>{value}", text, count=1)` -/
def subn (key value text : Text) : Text × Nat :=
  match substituted t key value true text with
  | some replaced => (replaced, 1)
  | none => (text, 0)

/-- What is written for a float or an ISO timestamp: a template without escapes. -/
structure Scalar where
  text : Text
  nonempty : text ≠ []
  plain : ∀ c ∈ text, t.isSpace c = false ∧ c ≠ '\\'

structure BenchResult where
  score : Scalar t
  timestamp : Scalar t

def latestScore : Key Char t.isSpace where
  text := "latest_score:".toList
  nonempty := by decide
  tight c first := by cases first; rfl

def measuredAt : Key Char t.isSpace where
  text := "measured_at:".toList
  nonempty := by decide
  tight c first := by cases first; rfl

variable (rt : Runtime)

def writeFrontmatterScore (id : PromptId) (result : BenchResult t) (text : Text) :
    Except PromptError Text :=
  let (newText, n1) := subn t (latestScore t).text result.score.text text
  let (newText, n2) := subn t (measuredAt t).text result.timestamp.text newText
  if n1 = 0 ∨ n2 = 0 then
    .error (.valueError ("prompt " ++ rt.reprStr id.text ++ " frontmatter is missing required fields " ++
      "(`latest_score`: " ++ toString n1 ++ " matches, `measured_at`: " ++ toString n2 ++ " matches). " ++
      "Add them under `performance:` before running with --write-frontmatter."))
  else .ok newText

end

/-! ## A process -/

/-- The files, and what `lru_cache` keeps of `_load_cached`. -/
structure ProcessState (μ : Type) where
  files : PromptFiles
  cached : PromptId → Option (Prompt μ)

inductive PromptCall (t : CharTables) where
  | loadPrompt (id : PromptId)
  | loadPromptMeta (id : PromptId)
  | writeFrontmatterScore (id : PromptId) (result : BenchResult t)
  /-- Somebody else writes or removes a file. -/
  | edit (id : PromptId) (text : Option Text)
  | retire (id : PromptId) (retired : Bool)

inductive PromptAnswer (μ : Type) where
  | body (id : PromptId) (answer : Except PromptError Text)
  | metadata (id : PromptId) (answer : Except PromptError μ)
  | written (id : PromptId) (answer : Except PromptError Unit)

section
variable {μ : Type} (rt : Runtime) (yaml : Yaml μ) (promptsDir : String)

def PromptFiles.put (files : PromptFiles) (id : PromptId) (text : Option Text) : PromptFiles :=
  { files with canonical := Function.update files.canonical id text }

def loadCached (s : ProcessState μ) (id : PromptId) :
    Except PromptError (Prompt μ) × ProcessState μ :=
  match s.cached id with
  | some prompt => (.ok prompt, s)
  | none =>
      match parse rt yaml promptsDir s.files id with
      | .error e => (.error e, s)
      | .ok prompt => (.ok prompt, { s with cached := Function.update s.cached id (some prompt) })

def takeCall (s : ProcessState μ) : PromptCall rt.tables → ProcessState μ × List (PromptAnswer μ)
  | .loadPrompt id =>
      let (answer, s) := loadCached rt yaml promptsDir s id
      (s, [.body id (answer.map fun prompt => prompt.body)])
  | .loadPromptMeta id =>
      let (answer, s) := loadCached rt yaml promptsDir s id
      (s, [.metadata id (answer.map fun prompt => prompt.metadata)])
  | .writeFrontmatterScore id result =>
      match s.files.canonical id with
      | none => (s, [.written id (.error (.fileNotFound
          ("[Errno 2] No such file or directory: " ++ rt.reprStr (path promptsDir id))))])
      | some text =>
          match writeFrontmatterScore rt.tables rt id result text with
          | .error e => (s, [.written id (.error e)])
          | .ok newText => ({ s with files := s.files.put id (some newText) }, [.written id (.ok ())])
  | .edit id text => ({ s with files := s.files.put id text }, [])
  | .retire id retired =>
      ({ s with files := { s.files with retired := Function.update s.files.retired id retired } }, [])

def promptProcess : Machine (ProcessState μ) (PromptCall rt.tables) (PromptAnswer μ) :=
  ⟨takeCall rt yaml promptsDir⟩

def started (files : PromptFiles) : ProcessState μ := ⟨files, fun _ => none⟩

end

end RealityAI.Model.Prompts
