import RealityAI.Proof.AuditTrail

namespace RealityAI.Proof.ParameterFormat
open Library Library.Regex Library.Regex.Re Python Model.Safety InnerSafety

/-! ## The grammar -/

structure Block (p : Char → Prop) (least most : Nat) (w : List Char) : Prop where
  each : ∀ c ∈ w, p c
  least : least ≤ w.length
  most : w.length ≤ most

section
variable (digit : Char → Prop)

def CourseId (text : List Char) : Prop :=
  ∃ capitals digits, Block (fun c => 'A' ≤ c ∧ c ≤ 'Z') 2 4 capitals ∧ Block digit 3 4 digits ∧
    text = capitals ++ digits

def DueDate (text : List Char) : Prop :=
  ∃ year month day, Block digit 4 4 year ∧ Block digit 2 2 month ∧ Block digit 2 2 day ∧
    text = year ++ '-' :: (month ++ '-' :: day)

end

def Grade (text : List Char) : Prop :=
  ∃ letter sign, ('A' ≤ letter ∧ letter ≤ 'F') ∧ sign ∈ [[], ['+'], ['-']] ∧ text = letter :: sign

inductive Field where
  | courseId | grade | dueDate | action | title
  deriving DecidableEq

namespace Field

def key : Field → String
  | .courseId => "course_id"
  | .grade => "grade"
  | .dueDate => "due_date"
  | .action => "action"
  | .title => "title"

def Reads (rt : Runtime) (digit : Char → Prop) (part : List Char → List Char) : Field → Json → Prop
  | .courseId, v => CourseId digit (part (rt.str v).toList)
  | .grade, v => Grade (part (rt.str v).toList)
  | .dueDate, v => DueDate digit (part (rt.str v).toList)
  | .action, v => v = .str "add" ∨ v = .str "drop"
  | .title, v => ∃ c ∈ (rt.str v).toList, rt.tables.isSpace c = false

def InLanguage (rt : Runtime) : Field → Json → Prop := Reads rt (fun c => c.isDigit) id

def withoutNewline (text : List Char) : List Char :=
  if text.getLast? = some '\n' then text.dropLast else text

/-- The field is in its language when a final line break does not count and every decimal digit of
Unicode is a digit. -/
def Nearly (rt : Runtime) : Field → Json → Prop := Reads rt (fun c => rt.tables.isDigit c) withoutNewline

end Field

def constrained : ActionTool → List Field
  | .gradeUpdate => [.courseId, .grade]
  | .enrollmentModify => [.courseId, .action]
  | .assignmentCreate => [.courseId, .title, .dueDate]

def EachField (tool : ActionTool) (args : Dict) (P : Field → Json → Prop) : Prop :=
  ∀ field ∈ constrained tool, ∀ v, Dict.get? args field.key = some v → P field v

/-! ## The patterns -/

section
variable (t : CharTables)

theorem mem_range (lo hi c : Char) : CharClass.mem t [.range lo hi] c = true ↔ lo ≤ c ∧ c ≤ hi := by
  simp only [CharClass.mem, List.any_cons, List.any_nil, Bool.or_false, ClassItem.mem, Bool.and_eq_true,
    decide_eq_true_eq]
  rfl

theorem mem_digit (c : Char) : CharClass.mem t [.digit] c = true ↔ t.isDigit c = true := by
  simp [CharClass.mem, ClassItem.mem]

theorem lang_rep {cls : CharClass} {P : Char → Prop} (means : ∀ c, cls.mem t c = true ↔ P c)
    (least most : Nat) (w : List Char) :
    (Re.rep cls least (some most)).Lang t w ↔ Block P least most w := by
  have each : (∀ c ∈ w, cls.mem t c = true) ↔ ∀ c ∈ w, P c := forall₂_congr fun c _ => means c
  constructor
  · intro ⟨all, low, high⟩
    exact ⟨each.mp all, low, high most rfl⟩
  · intro block
    refine ⟨each.mpr block.each, block.least, fun bound same => ?_⟩
    cases same
    exact block.most

theorem lang_courseId (w : List Char) :
    courseIdPattern.Lang t w ↔ CourseId (fun c => t.isDigit c) w := by
  have capitals := lang_rep t (mem_range t 'A' 'Z') 2 4
  have digits := lang_rep t (mem_digit t) 3 4
  simp only [courseIdPattern, Lang.eq_3, capitals, digits]
  rfl

theorem lang_sign (w : List Char) :
    (opt (.cls [.one '+', .one '-'])).Lang t w ↔ w ∈ [[], ['+'], ['-']] := by
  simp only [opt, Lang, CharClass.mem, ClassItem.mem, List.any_cons, List.any_nil, Bool.or_false,
    Bool.or_eq_true, beq_iff_eq, List.mem_cons, List.not_mem_nil, or_false]
  constructor
  · rintro (⟨x, rfl | rfl, rfl⟩ | rfl)
    · exact .inr (.inl rfl)
    · exact .inr (.inr rfl)
    · exact .inl rfl
  · rintro (rfl | rfl | rfl)
    · exact .inr rfl
    · exact .inl ⟨'+', .inl rfl, rfl⟩
    · exact .inl ⟨'-', .inr rfl, rfl⟩

theorem lang_grade (w : List Char) : gradePattern.Lang t w ↔ Grade w := by
  constructor
  · rintro ⟨_, sign, ⟨letter, inside, rfl⟩, signed, rfl⟩
    exact ⟨letter, sign, (mem_range t _ _ _).mp inside, (lang_sign t sign).mp signed, rfl⟩
  · rintro ⟨letter, sign, inside, signed, rfl⟩
    exact ⟨[letter], sign, ⟨letter, (mem_range t _ _ _).mpr inside, rfl⟩,
      (lang_sign t sign).mpr signed, rfl⟩

theorem lang_dueDate (w : List Char) : datePattern.Lang t w ↔ DueDate (fun c => t.isDigit c) w := by
  have digits := lang_rep t (mem_digit t)
  constructor
  · rintro ⟨year, _, isYear, ⟨_, _, dash, ⟨month, _, isMonth, ⟨_, day, dash', isDay, rfl⟩, rfl⟩, rfl⟩, rfl⟩
    rw [lang_one] at dash dash'
    rw [dash, dash']
    exact ⟨year, month, day, (digits 4 4 year).mp isYear, (digits 2 2 month).mp isMonth,
      (digits 2 2 day).mp isDay, rfl⟩
  · rintro ⟨year, month, day, isYear, isMonth, isDay, rfl⟩
    exact ⟨year, _, (digits 4 4 year).mpr isYear, ⟨['-'], _, (lang_one t _ _).mpr rfl, ⟨month, _,
      (digits 2 2 month).mpr isMonth, ⟨['-'], day, (lang_one t _ _).mpr rfl,
      (digits 2 2 day).mpr isDay, rfl⟩, rfl⟩, rfl⟩, rfl⟩

/-- `$` matches at the end, and before a line break that ends the text. -/
theorem matchesLine_iff (rt : Runtime) {r : Re} (away : r.avoids rt.tables '\n' = true) (s : String) :
    matchesLine rt r s = true ↔ r.Lang rt.tables (Field.withoutNewline s.toList) := by
  have run : matchesLine rt r s = true ↔
      r.Lang rt.tables s.toList ∨ ∃ w, s.toList = w ++ ['\n'] ∧ r.Lang rt.tables w := by
    simp only [matchesLine, List.any_eq_true, Prod.exists, mem_run_iff, decide_eq_true_eq]
    constructor
    · rintro ⟨w, rest, ⟨text, lang⟩, rfl | rfl⟩
      · rw [List.append_nil] at text
        exact .inl (text ▸ lang)
      · exact .inr ⟨w, text, lang⟩
    · rintro (lang | ⟨w, text, lang⟩)
      · exact ⟨_, [], ⟨(List.append_nil _).symm, lang⟩, .inl rfl⟩
      · exact ⟨w, _, ⟨text, lang⟩, .inr rfl⟩
  rw [run, Field.withoutNewline]
  by_cases last : s.toList.getLast? = some '\n'
  · obtain ⟨w, text⟩ := List.getLast?_eq_some_iff.mp last
    have outside : ¬ r.Lang rt.tables s.toList := by
      intro lang
      refine r.not_mem_of_avoids rt.tables away lang ?_
      simp [text]
    rw [if_pos last, or_iff_right outside, text, List.dropLast_concat]
    simp
  · rw [if_neg last, or_iff_left]
    rintro ⟨w, text, -⟩
    simp [text] at last

end

/-! ## The decision -/

section
variable {rt : Runtime} {args : Dict}

theorem fieldErrors_nil_iff {key : String} {accepts : Json → Bool} {error : Json → String} :
    fieldErrors args key accepts error = [] ↔
      ∀ v, Dict.get? args key = some v → accepts v = true := by
  unfold fieldErrors
  cases Dict.get? args key with
  | none => simp
  | some v => by_cases here : accepts v = true <;> simp [here]

theorem dropWhile_all_iff {p : Char → Bool} {l : List Char} :
    (∀ c ∈ l.dropWhile p, p c = true) ↔ ∀ c ∈ l, p c = true := by
  constructor
  · intro all c mem
    rw [← List.takeWhile_append_dropWhile (p := p) (l := l), List.mem_append] at mem
    exact mem.elim List.mem_takeWhile_imp (all c)
  · intro all c mem
    exact all c ((List.dropWhile_suffix p).subset mem)

theorem strip_ne_empty_iff (s : String) :
    rt.strip s ≠ "" ↔ ∃ c ∈ s.toList, rt.tables.isSpace c = false := by
  have empty : rt.strip s = "" ↔ ∀ c ∈ s.toList, rt.tables.isSpace c = true := by
    rw [← dropWhile_all_iff, Runtime.strip, ← String.toList_inj, String.toList_ofList]
    simp
  rw [ne_eq, empty]
  simp

/-! ## Each field -/

theorem courseId_nil_iff : courseIdErrors rt args = [] ↔
    ∀ v, Dict.get? args "course_id" = some v → Field.courseId.Nearly rt v := by
  rw [courseIdErrors, fieldErrors_nil_iff]
  apply forall₂_congr
  intro v _
  exact (matchesLine_iff rt rfl _).trans (lang_courseId _ _)

theorem isDigit_of_ascii {c : Char} (digit : c.isDigit = true) : rt.tables.isDigit c = true := by
  have small : c.toNat < 128 := by
    simp only [Char.isDigit, Bool.and_eq_true, decide_eq_true_eq] at digit
    have most : c.toNat ≤ 57 := digit.2
    omega
  rw [CharTables.isDigit, if_pos small]
  exact digit

theorem Block.imp {p q : Char → Prop} {least most : Nat} {w : List Char} (block : Block p least most w)
    (step : ∀ c, p c → q c) : Block q least most w :=
  ⟨fun c mem => step c (block.each c mem), block.least, block.most⟩

theorem withoutNewline_of_lang {r : Re} {w : List Char} (away : r.avoids rt.tables '\n' = true)
    (lang : r.Lang rt.tables w) : Field.withoutNewline w = w := by
  apply if_neg
  intro last
  exact r.not_mem_of_avoids rt.tables away lang (List.mem_of_getLast? last)

theorem courseId_wide {w : List Char} (strict : CourseId (fun c => c.isDigit) w) :
    CourseId (fun c => rt.tables.isDigit c) w := by
  obtain ⟨capitals, digits, first, second, text⟩ := strict
  exact ⟨capitals, digits, first, second.imp fun _ => isDigit_of_ascii, text⟩

theorem dueDate_wide {w : List Char} (strict : DueDate (fun c => c.isDigit) w) :
    DueDate (fun c => rt.tables.isDigit c) w := by
  obtain ⟨year, month, day, first, second, third, text⟩ := strict
  exact ⟨year, month, day, first.imp fun _ => isDigit_of_ascii, second.imp fun _ => isDigit_of_ascii,
    third.imp fun _ => isDigit_of_ascii, text⟩

theorem nearly_of_inLanguage {field : Field} {v : Json} (inside : field.InLanguage rt v) :
    field.Nearly rt v := by
  cases field with
  | courseId =>
      have loose : CourseId (fun c => rt.tables.isDigit c) (rt.str v).toList := courseId_wide inside
      show CourseId _ (Field.withoutNewline _)
      rwa [withoutNewline_of_lang rfl ((lang_courseId _ _).mpr loose)]
  | grade =>
      have strict : Grade (rt.str v).toList := inside
      show Grade (Field.withoutNewline _)
      rwa [withoutNewline_of_lang rfl ((lang_grade rt.tables _).mpr strict)]
  | dueDate =>
      have loose : DueDate (fun c => rt.tables.isDigit c) (rt.str v).toList := dueDate_wide inside
      show DueDate _ (Field.withoutNewline _)
      rwa [withoutNewline_of_lang rfl ((lang_dueDate _ _).mpr loose)]
  | action | title => exact inside

/-! ## Each tool -/

def HashableAction (tool : ActionTool) (args : Dict) : Prop :=
  tool = .enrollmentModify → ∀ v, Dict.get? args "action" = some v → v.hashable = true

def Passes (rt : Runtime) (args : Dict) (field : Field) : Prop :=
  ∀ v, Dict.get? args field.key = some v → field.Nearly rt v

theorem eachField_iff {tool : ActionTool} :
    EachField tool args (Field.Nearly rt) ↔ ∀ field ∈ constrained tool, Passes rt args field := Iff.rfl

theorem gradeUpdate_nil_iff : ∃ errors, validateGradeUpdateFormat rt args = .ok errors ∧
    (errors = [] ↔ EachField .gradeUpdate args (Field.Nearly rt)) := by
  have grade (v : Json) : matchesLine rt gradePattern (rt.str v) = true ↔ Field.grade.Nearly rt v :=
    (matchesLine_iff rt rfl _).trans (lang_grade _ _)
  refine ⟨_, rfl, ?_⟩
  rw [List.append_eq_nil_iff, courseId_nil_iff, fieldErrors_nil_iff, eachField_iff]
  simp only [constrained, List.forall_mem_cons, List.not_mem_nil, false_implies, implies_true, and_true,
    Passes, grade]
  rfl

variable (rt) in
theorem inSet_iff {v : Json} (hashable : v.hashable = true) :
    ∃ member, v.inSet enrollmentActions = .ok member ∧
      (member = true ↔ Field.action.Nearly rt v) := by
  refine ⟨_, if_pos hashable, ?_⟩
  cases v with
  | str s => simp [enrollmentActions, Json.isStr, Field.Nearly, Field.Reads]
  | _ => simp [enrollmentActions, Json.isStr, Field.Nearly, Field.Reads]

theorem enrollment_nil_iff (hashable : HashableAction .enrollmentModify args) :
    ∃ errors, validateEnrollmentFormat rt args = .ok errors ∧
      (errors = [] ↔ EachField .enrollmentModify args (Field.Nearly rt)) := by
  rw [eachField_iff]
  simp only [constrained, List.forall_mem_cons, List.not_mem_nil, false_implies, implies_true, and_true]
  rw [validateEnrollmentFormat]
  cases given : Dict.get? args "action" with
  | none =>
      refine ⟨_, rfl, ?_⟩
      have absent : Passes rt args .action := by
        intro v present
        rw [show Field.action.key = "action" from rfl, given] at present
        cases present
      rw [courseId_nil_iff, and_iff_left absent]
      rfl
  | some action =>
      obtain ⟨member, returned, reads⟩ := inSet_iff rt (hashable rfl action given)
      have passes : Passes rt args .action ↔ member = true := by
        rw [reads]
        constructor
        · intro each
          exact each action given
        · intro here v present
          cases given.symm.trans present
          exact here
      dsimp only
      rw [returned, passes]
      cases member with
      | true =>
          refine ⟨_, rfl, ?_⟩
          rw [courseId_nil_iff, and_iff_left rfl]
          rfl
      | false =>
          refine ⟨_, rfl, ?_⟩
          simp

theorem assignment_nil_iff : ∃ errors, validateAssignmentFormat rt args = .ok errors ∧
    (errors = [] ↔ EachField .assignmentCreate args (Field.Nearly rt)) := by
  have title (v : Json) : decide (rt.strip (rt.str v) ≠ "") = true ↔ Field.title.Nearly rt v :=
    decide_eq_true_iff.trans (strip_ne_empty_iff _)
  have dueDate (v : Json) : matchesLine rt datePattern (rt.str v) = true ↔ Field.dueDate.Nearly rt v :=
    (matchesLine_iff rt rfl _).trans (lang_dueDate _ _)
  refine ⟨_, rfl, ?_⟩
  rw [List.append_eq_nil_iff, List.append_eq_nil_iff, courseId_nil_iff, fieldErrors_nil_iff,
    fieldErrors_nil_iff, eachField_iff]
  simp only [constrained, List.forall_mem_cons, List.not_mem_nil, false_implies, implies_true, and_true,
    Passes, title, dueDate, and_assoc]
  rfl

theorem errors_nil_iff {tool : ActionTool} (hashable : HashableAction tool args) :
    ∃ validator errors, (formatValidators rt).lookup (toolName tool) = some validator ∧
      validator args = .ok errors ∧ (errors = [] ↔ EachField tool args (Field.Nearly rt)) := by
  cases tool with
  | gradeUpdate =>
      obtain ⟨errors, ran, nil⟩ := @gradeUpdate_nil_iff rt args
      exact ⟨_, errors, rfl, ran, nil⟩
  | enrollmentModify =>
      obtain ⟨errors, ran, nil⟩ := @enrollment_nil_iff rt args hashable
      exact ⟨_, errors, rfl, ran, nil⟩
  | assignmentCreate =>
      obtain ⟨errors, ran, nil⟩ := @assignment_nil_iff rt args
      exact ⟨_, errors, rfl, ran, nil⟩

variable {session : SessionContext} {tool : ActionTool}

theorem checkParameterFormat_allow_iff (hashable : HashableAction tool args) :
    ∃ r, checkParameterFormat rt ⟨session, toolName tool, args⟩ = .ok r ∧
      (r.decision = .allow ↔ EachField tool args (Field.Nearly rt)) := by
  obtain ⟨validator, errors, known, ran, nil⟩ := @errors_nil_iff rt args tool hashable
  rw [← nil, checkParameterFormat, known]
  dsimp only
  rw [ran]
  by_cases empty : errors = []
  · refine ⟨_, if_neg (not_not.mpr empty), ?_⟩
    simp [empty]
  · refine ⟨_, if_pos empty, ?_⟩
    simp [empty]

theorem checkParameterFormat_hashable {r : LayerResult}
    (ok : checkParameterFormat rt ⟨session, toolName tool, args⟩ = .ok r) :
    HashableAction tool args := by
  rintro rfl v given
  by_contra unhashable
  have raises : validateEnrollmentFormat rt args = .error v.unhashable := by
    rw [validateEnrollmentFormat, given]
    dsimp only
    rw [Json.inSet, if_neg unhashable]
    rfl
  have failed : checkParameterFormat rt ⟨session, toolName .enrollmentModify, args⟩ =
      .error v.unhashable := by
    show (validateEnrollmentFormat rt args >>= _) = _
    rw [raises]
    rfl
  cases failed.symm.trans ok

end

/-- The check returns, and allows what is in the grammar alone, if and only if the action can be looked
up in a set and arguments that are in the grammar but for a final line break and for digits beyond
ASCII are in it without exception. -/
theorem check_accepts_grammar_iff (rt : Runtime) (session : SessionContext) (tool : ActionTool)
    (args : Dict) :
    (∃ r, checkParameterFormat rt ⟨session, toolName tool, args⟩ = .ok r ∧
        (r.decision = .allow ↔ EachField tool args (Field.InLanguage rt))) ↔
      HashableAction tool args ∧
        (EachField tool args (Field.Nearly rt) → EachField tool args (Field.InLanguage rt)) := by
  constructor
  · intro ⟨r, ok, accepts⟩
    have hashable := checkParameterFormat_hashable ok
    refine ⟨hashable, fun nearly => accepts.mp ?_⟩
    obtain ⟨r', ok', allows⟩ := @checkParameterFormat_allow_iff rt args session tool hashable
    cases ok.symm.trans ok'
    exact allows.mpr nearly
  · intro ⟨hashable, exact⟩
    obtain ⟨r, ok, allows⟩ := @checkParameterFormat_allow_iff rt args session tool hashable
    refine ⟨r, ok, allows.trans ⟨exact, fun strict field mem v given => ?_⟩⟩
    exact nearly_of_inLanguage (strict field mem v given)

def brokenLine : Dict := [("course_id", .str "CS101\n"), ("action", .str "add")]

theorem final_newline_allowed :
    ¬ ∃ r, checkParameterFormat .ascii ⟨⟨"u1", "s1", "student", none⟩, toolName .enrollmentModify,
        brokenLine⟩ = .ok r ∧
      (r.decision = .allow ↔ EachField .enrollmentModify brokenLine (Field.InLanguage .ascii)) := by
  rintro ⟨r, ok, accepts⟩
  have allowed : checkParameterFormat .ascii ⟨⟨"u1", "s1", "student", none⟩,
      toolName .enrollmentModify, brokenLine⟩ =
        .ok ⟨.parameterFormat, .allow, "format_checks_passed", ""⟩ := by
    decide +kernel
  cases ok.symm.trans allowed
  have strict := accepts.mp rfl .courseId List.mem_cons_self _ rfl
  have loose : CourseId (fun c => Runtime.ascii.tables.isDigit c) "CS101\n".toList :=
    courseId_wide strict
  have kept := withoutNewline_of_lang rfl ((lang_courseId _ _).mpr loose)
  revert kept
  decide

end RealityAI.Proof.ParameterFormat
