import RealityAI.Proof.ActionAgent

namespace RealityAI.Proof.Invocation
open Python Model.Safety Model.ActionAgent InnerSafety ActionAgent

section
variable {args : Dict} {call : WriteCall}

theorem get_of_readFrom (read : ReadFrom args call) (key : String) (v : Json)
    (mem : (key, v) ∈ call.args) (given : key ≠ "description") : Dict.get args key = v := by
  rcases read key v mem with found | ⟨defaulted, -⟩
  · unfold Dict.get
    rw [found]
    rfl
  · exact absurd defaulted given

theorem precondition_call {userId : String} {state : CourseState} (read : ReadFrom args call)
    (holds : Precondition userId args state call.tool) :
    Precondition userId call.args state call.tool := by
  cases call with
  | gradeUpdate studentId courseId assignmentId grade =>
      have student := get_of_readFrom read "student_id" (.str studentId)
        (by simp [WriteCall.args]) (by decide)
      obtain ⟨open_, known, mem, same⟩ := holds
      exact ⟨open_, known, mem, student.symm.trans same⟩
  | enrollmentModify studentId courseId action =>
      have student := get_of_readFrom read "student_id" (.str studentId)
        (by simp [WriteCall.args]) (by decide)
      have asked := get_of_readFrom read "action" (.str action)
        (by simp [WriteCall.args]) (by decide)
      refine ⟨fun add => holds.1 (asked.trans add), fun drop => ?_⟩
      obtain ⟨known, mem, same⟩ := holds.2 (asked.trans drop)
      exact ⟨known, mem, student.symm.trans same⟩
  | assignmentCreate => exact holds

theorem course_call (read : ReadFrom args call) :
    Dict.get call.args "course_id" = Dict.get args "course_id" := by
  have same {v : Json} (mem : ("course_id", v) ∈ call.args) :
      Dict.get args "course_id" = v := get_of_readFrom read _ v mem (by decide)
  cases call with
  | gradeUpdate => exact (same (by simp [WriteCall.args]; rfl)).symm
  | enrollmentModify => exact (same (by simp [WriteCall.args]; rfl)).symm
  | assignmentCreate => exact (same (by simp [WriteCall.args]; rfl)).symm

/-- What the gate has checked about the arguments, it has checked about the call. -/
theorem permitted_call {readCourseState : ReadCourse} {role userId : String}
    (read : ReadFrom args call)
    (permitted : Permitted readCourseState role userId call.tool args) :
    Permitted readCourseState role userId call.tool call.args where
  granted := permitted.granted
  present := by
    obtain ⟨required, known, -⟩ := permitted.present
    refine ⟨required, known, fun key mem => ?_⟩
    revert key
    cases call <;>
    · cases known
      simp [WriteCall.args, Dict.has, Dict.get?, List.lookup_cons]
  own role := by
    obtain ⟨enrolls, own⟩ := permitted.own role
    refine ⟨enrolls, ?_⟩
    cases call with
    | enrollmentModify studentId =>
        have student := get_of_readFrom read "student_id" (.str studentId)
          (by simp [WriteCall.args]) (by decide)
        exact student.symm.trans own
    | gradeUpdate => cases enrolls
    | assignmentCreate => cases enrolls
  live := by
    obtain ⟨state, known, holds⟩ := permitted.live
    exact ⟨state, course_call read ▸ known, precondition_call read holds⟩

theorem outcome_dict {w : World} {tool : ActionTool} {raw : Dict}
    (ok : outcome w tool args = .ok (.dict raw)) : ∃ call, w.functions call = .ok raw := by
  obtain ⟨call, raw', -, ran, handed⟩ := outcome_ok ok
  rcases (w.langChain.returned : w.langChain.handBack args raw' = _ ∨ _) with same | ⟨-, other⟩
  · rw [same] at handed
    cases handed
    exact ⟨call, ran⟩
  · exact absurd handed (other raw)

theorem outcome_plain {w : World} {tool : ActionTool} (plain : ¬ IsToolCall args) :
    outcome w tool args = (w.langChain.makeCall tool args >>= w.functions).map .dict := by
  have handed : w.langChain.handBack args = fun raw => .ok (.dict raw) := by
    funext raw
    exact w.langChain.returned.resolve_right fun envelope => plain envelope.1
  rw [outcome_eq, handed]
  cases w.langChain.makeCall tool args with
  | error e => rfl
  | ok call => cases w.functions call <;> rfl

theorem toolMessage_toolCall {w : World} {tool : ActionTool}
    (message : outcome w tool args = .ok .toolMessage) : IsToolCall args := by
  by_contra plain
  rw [outcome_plain plain] at message
  cases ran : w.langChain.makeCall tool args >>= w.functions <;>
  · rw [ran] at message
    cases message

end

/-! LangChain for concrete runs: the arguments are texts, and others than those of the function are
ignored. -/

def textArg (args : Dict) (key : String) : Except PyExc String :=
  match Dict.get? args key with
  | some (.str text) => .ok text
  | some v => .error ⟨.validationError, key ++ "\n  Input should be a valid string " ++
      "[type=string_type, input_value=" ++ Runtime.ascii.repr v ++ "]"⟩
  | none => .error ⟨.validationError, key ++ "\n  Field required"⟩

def descriptionArg (args : Dict) : Except PyExc String :=
  if Dict.has args "description" then textArg args "description" else .ok ""

def readCall : ActionTool → Dict → Except PyExc WriteCall
  | .gradeUpdate, args => do
      return .gradeUpdate (← textArg args "student_id") (← textArg args "course_id")
        (← textArg args "assignment_id") (← textArg args "grade")
  | .enrollmentModify, args => do
      return .enrollmentModify (← textArg args "student_id") (← textArg args "course_id")
        (← textArg args "action")
  | .assignmentCreate, args => do
      return .assignmentCreate (← textArg args "course_id") (← textArg args "title")
        (← textArg args "due_date") (← descriptionArg args)

def unpack (args : Dict) : Except PyExc Dict := do
  let _ ← item .ascii args "id"
  dictField (← item .ascii args "args")

theorem unpack_ok {args inner : Dict} (ok : unpack args = .ok inner) :
    Dict.get args "args" = .obj inner := by
  obtain ⟨_, -, ok⟩ := bind_ok.mp ok
  obtain ⟨v, found, dict⟩ := bind_ok.mp ok
  unfold item at found
  unfold Dict.get
  cases here : Dict.get? args "args" with
  | none =>
      rw [here] at found
      cases found
  | some w =>
      rw [here] at found
      obtain rfl : w = v := Except.ok.inj found
      cases w with
      | obj d => exact congrArg Json.obj (Except.ok.inj dict)
      | _ => cases dict

theorem textArg_ok {args : Dict} {key text : String} (ok : textArg args key = .ok text) :
    Dict.get? args key = some (.str text) := by
  unfold textArg at ok
  split at ok
  · rename_i found
    rw [found, Except.ok.inj ok]
  · cases ok
  · cases ok

theorem description_ok {args : Dict} {text : String}
    (ok : descriptionArg args = .ok text) : Dict.get? args "description" = some (.str text) ∨
      text = "" ∧ Dict.get? args "description" = none := by
  unfold descriptionArg at ok
  split at ok
  · exact .inl (textArg_ok ok)
  · rename_i absent
    exact .inr ⟨(Except.ok.inj ok).symm, by simpa [Dict.has] using absent⟩

theorem readCall_ok {tool : ActionTool} {args : Dict} {call : WriteCall}
    (ok : readCall tool args = .ok call) : call.tool = tool ∧ ReadFrom args call := by
  cases tool with
  | gradeUpdate =>
      obtain ⟨studentId, student, ok⟩ := bind_ok.mp ok
      obtain ⟨courseId, course, ok⟩ := bind_ok.mp ok
      obtain ⟨assignmentId, assignment, ok⟩ := bind_ok.mp ok
      obtain ⟨grade, graded, ok⟩ := bind_ok.mp ok
      cases ok
      refine ⟨rfl, fun key v mem => .inl ?_⟩
      simp only [WriteCall.args, List.mem_cons, Prod.mk.injEq, List.not_mem_nil, or_false] at mem
      rcases mem with ⟨rfl, rfl⟩ | ⟨rfl, rfl⟩ | ⟨rfl, rfl⟩ | ⟨rfl, rfl⟩
      · exact textArg_ok student
      · exact textArg_ok course
      · exact textArg_ok assignment
      · exact textArg_ok graded
  | enrollmentModify =>
      obtain ⟨studentId, student, ok⟩ := bind_ok.mp ok
      obtain ⟨courseId, course, ok⟩ := bind_ok.mp ok
      obtain ⟨action, asked, ok⟩ := bind_ok.mp ok
      cases ok
      refine ⟨rfl, fun key v mem => .inl ?_⟩
      simp only [WriteCall.args, List.mem_cons, Prod.mk.injEq, List.not_mem_nil, or_false] at mem
      rcases mem with ⟨rfl, rfl⟩ | ⟨rfl, rfl⟩ | ⟨rfl, rfl⟩
      · exact textArg_ok student
      · exact textArg_ok course
      · exact textArg_ok asked
  | assignmentCreate =>
      obtain ⟨courseId, course, ok⟩ := bind_ok.mp ok
      obtain ⟨title, titled, ok⟩ := bind_ok.mp ok
      obtain ⟨dueDate, due, ok⟩ := bind_ok.mp ok
      obtain ⟨description, described, ok⟩ := bind_ok.mp ok
      cases ok
      refine ⟨rfl, fun key v mem => ?_⟩
      simp only [WriteCall.args, List.mem_cons, Prod.mk.injEq, List.not_mem_nil, or_false] at mem
      rcases mem with ⟨rfl, rfl⟩ | ⟨rfl, rfl⟩ | ⟨rfl, rfl⟩ | ⟨rfl, rfl⟩
      · exact .inl (textArg_ok course)
      · exact .inl (textArg_ok titled)
      · exact .inl (textArg_ok due)
      · rcases description_ok described with given | ⟨rfl, absent⟩
        · exact .inl given
        · exact .inr ⟨rfl, rfl, absent⟩

theorem isStr_iff {v : Json} {s : String} : v.isStr s = true ↔ v = .str s := by
  cases v <;> simp [Json.isStr]

def hasId (args : Dict) : Bool :=
  match Dict.get args "id" with
  | .null => false
  | _ => true

def textTools : LangChain where
  makeCall tool args :=
    if (Dict.get args "type").isStr "tool_call" then unpack args >>= readCall tool
    else readCall tool args
  handBack args raw :=
    if (Dict.get args "type").isStr "tool_call" ∧ hasId args then .ok .toolMessage
    else .ok (.dict raw)
  own made := by
    split at made
    · obtain ⟨inner, -, ok⟩ := bind_ok.mp made
      exact (readCall_ok ok).1
    · exact (readCall_ok made).1
  plain direct made := by
    rw [IsToolCall, ← isStr_iff] at direct
    exact (readCall_ok ((if_neg direct).symm.trans made)).2
  nested envelope made := by
    rw [IsToolCall, ← isStr_iff] at envelope
    obtain ⟨inner, unpacked, ok⟩ := bind_ok.mp ((if_pos envelope).symm.trans made)
    refine ⟨inner, ?_, (readCall_ok ok).2⟩
    exact unpack_ok unpacked
  returned {args raw} := by
    rw [IsToolCall, ← isStr_iff]
    by_cases message : (Dict.get args "type").isStr "tool_call" = true ∧ hasId args = true
    · refine .inr ⟨message.1, fun d => ?_⟩
      show (if _ then _ else _ : Except PyExc Returned) ≠ _
      rw [if_pos message]
      exact nofun
    · exact .inl (if_neg message)

end RealityAI.Proof.Invocation
