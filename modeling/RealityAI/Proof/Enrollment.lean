import RealityAI.Model.Enrollment
import RealityAI.Proof.ActionTools
import RealityAI.Proof.StudentService
import Mathlib.Data.Finset.Card

namespace RealityAI.Proof.Enrollment
open Library Python Model.Safety Model.CoreService Model.ActionTools Model.Enrollment InnerSafety
open ActionTools StudentService

/-! ## The write -/

section
variable {columns : Columns} {db : Database} {courseId studentId : String}

def afterAdd (columns : Columns) (db : Database) (courseId studentId : String) : Database :=
  (enrollmentModify (databaseClient columns) studentId courseId "add" db).2

theorem afterAdd_eq : afterAdd columns db courseId studentId =
    (delivered db (grpcEnrollStudent columns db studentId courseId semester) enrollmentToDict).2 := by
  unfold afterAdd enrollmentModify
  rw [if_pos rfl, orMock_snd]
  rfl

theorem afterAdd_inserts (can : Insertable columns db studentId courseId semester) :
    (afterAdd columns db courseId studentId).students = db.students ∧
    (afterAdd columns db courseId studentId).enrollments.rows =
      db.enrollments.rows ++ [newEnrollment studentId courseId semester] := by
  obtain ⟨enrollments, -, rows, answered⟩ := enrollStudent_insertable can
  rw [afterAdd_eq, grpcEnrollStudent, answered]
  exact ⟨rfl, rows⟩

theorem afterAdd_refused (refused : ¬ Insertable columns db studentId courseId semester) :
    afterAdd columns db courseId studentId = db := by
  obtain ⟨e, raised⟩ := enrollStudent_refused refused
  rw [afterAdd_eq, grpcEnrollStudent, raised]
  rfl

end

/-! ## The read -/

def OwnRecord {courseId : String} (attempt : AddAttempt courseId) : Prop :=
  attempt.input.session.userRole = "student" → attempt.studentId = attempt.input.session.userId

section
variable (columns : Columns) (rt : Runtime) (course : Course)

def enrolled (db : Database) : Nat := (enrolledStudents db course.courseId).length

theorem readCourseState_self (db : Database) :
    readCourseState rt course db (.str course.courseId) =
      .ok { instructorUserId := course.instructorUserId
            currentEnrollment := enrolled course db
            capacity := course.capacity
            gradeWindowOpen := course.gradeWindowOpen
            enrolledStudents := enrolledStudents db course.courseId } := by
  unfold readCourseState
  rw [if_pos (isStr_iff.mpr rfl)]
  rfl

theorem check_allows {db : Database} {attempt : AddAttempt course.courseId}
    (own : OwnRecord attempt) (space : (enrolled course db : Int) < course.capacity) :
    checkEnrollmentModify rt (readCourseState rt course db) attempt.input =
      .ok (.allow, "enrollment_capacity_ok", "") := by
  have mine : ¬ (attempt.input.session.userRole = "student" ∧
      (Json.str attempt.studentId).isStr attempt.input.session.userId = false) := by
    intro ⟨role, other⟩
    rw [own role, isStr_iff.mpr rfl] at other
    cases other
  simp only [checkEnrollmentModify, item, attempt.course, attempt.student, attempt.action]
  show (if _ ∧ _ then _ else _) = _
  rw [if_neg mine, readCourseState_self]
  exact if_neg (Int.not_le.mpr space)

theorem check_allows_iff (db : Database) (attempt : AddAttempt course.courseId) :
    (checkLiveState rt (readCourseState rt course db) attempt.input).decision = .allow ↔
      OwnRecord attempt ∧ (enrolled course db : Int) < course.capacity := by
  constructor
  · intro allow
    obtain ⟨reason, verdict⟩ := liveState_dispatch allow
    unfold dispatch at verdict
    rw [if_pos attempt.tool] at verdict
    obtain ⟨own, state, found, space, -⟩ := enrollmentModify_allows verdict
    unfold Dict.get at own found space
    rw [attempt.student] at own
    rw [attempt.course, Option.getD_some, readCourseState_self] at found
    rw [attempt.action] at space
    cases found
    exact ⟨fun role => Json.str.inj (own role), space rfl⟩
  · intro ⟨own, space⟩
    unfold checkLiveState dispatch
    rw [if_pos attempt.tool, check_allows rt course own space]

/-! ## Seats -/

variable {db : Database} {courseId studentId : String}

instance (attempt : AddAttempt course.courseId) : Decidable (OwnRecord attempt) :=
  inferInstanceAs (Decidable (_ → _))

def pending (sys : System course.courseId) : Finset String :=
  (sys.inFlight.map AddAttempt.studentId).toFinset.filter fun s =>
    Insertable columns sys.db s course.courseId semester

/-- The seats that are taken once every attempt in flight has called its tool. -/
def seats (sys : System course.courseId) : Nat :=
  enrolled course sys.db + (pending columns course sys).card

theorem mem_pending {sys : System course.courseId} {s : String} : s ∈ pending columns course sys ↔
    (∃ attempt ∈ sys.inFlight, attempt.studentId = s) ∧
      Insertable columns sys.db s course.courseId semester := by
  simp [pending]

def Takes (sys : System course.courseId) (attempt : AddAttempt course.courseId) : Prop :=
  (OwnRecord attempt ∧ (enrolled course sys.db : Int) < course.capacity) ∧
    Insertable columns sys.db attempt.studentId course.courseId semester ∧
    attempt.studentId ∉ pending columns course sys

theorem pending_append (sys : System course.courseId) (attempt : AddAttempt course.courseId) :
    pending columns course { sys with inFlight := sys.inFlight ++ [attempt] } =
      if Insertable columns sys.db attempt.studentId course.courseId semester then
        insert attempt.studentId (pending columns course sys)
      else pending columns course sys := by
  split
  · rename_i insertable
    ext s
    rw [Finset.mem_insert, mem_pending, mem_pending]
    constructor
    · intro ⟨⟨a, mem, same⟩, can⟩
      cases List.mem_append.mp mem with
      | inl old => exact .inr ⟨⟨a, old, same⟩, can⟩
      | inr new =>
          rw [List.mem_singleton.mp new] at same
          exact .inl same.symm
    · intro mem
      cases mem with
      | inl same =>
          subst same
          exact ⟨⟨attempt, List.mem_append_right _ (List.mem_singleton_self _), rfl⟩, insertable⟩
      | inr old =>
          obtain ⟨⟨a, mem, same⟩, can⟩ := old
          exact ⟨⟨a, List.mem_append_left _ mem, same⟩, can⟩
  · rename_i refused
    ext s
    rw [mem_pending, mem_pending]
    constructor
    · intro ⟨⟨a, mem, same⟩, can⟩
      cases List.mem_append.mp mem with
      | inl old => exact ⟨⟨a, old, same⟩, can⟩
      | inr new =>
          rw [← same, List.mem_singleton.mp new] at can
          exact absurd can refused
    · intro ⟨⟨a, mem, same⟩, can⟩
      exact ⟨⟨a, List.mem_append_left _ mem, same⟩, can⟩

theorem check_allowed {sys : System course.courseId} {attempt : AddAttempt course.courseId}
    (allowed : OwnRecord attempt ∧ (enrolled course sys.db : Int) < course.capacity) :
    (takeStep columns rt course sys (.check attempt)).1 =
      { sys with inFlight := sys.inFlight ++ [attempt] } := by
  unfold takeStep
  dsimp only
  rw [if_pos ((check_allows_iff rt course sys.db attempt).mpr allowed)]

theorem check_denied {sys : System course.courseId} {attempt : AddAttempt course.courseId}
    (denied : ¬ (OwnRecord attempt ∧ (enrolled course sys.db : Int) < course.capacity)) :
    (takeStep columns rt course sys (.check attempt)).1 = sys := by
  unfold takeStep
  dsimp only
  rw [if_neg fun allow => denied ((check_allows_iff rt course sys.db attempt).mp allow)]

theorem check_takes {sys : System course.courseId} {attempt : AddAttempt course.courseId}
    (takes : Takes columns course sys attempt) :
    seats columns course (takeStep columns rt course sys (.check attempt)).1 = seats columns course sys + 1 := by
  obtain ⟨allowed, insertable, new⟩ := takes
  rw [check_allowed columns rt course allowed]
  unfold seats
  rw [pending_append, if_pos insertable, Finset.card_insert_of_notMem new]
  rfl

theorem check_keeps {sys : System course.courseId} {attempt : AddAttempt course.courseId}
    (keeps : ¬ Takes columns course sys attempt) :
    seats columns course (takeStep columns rt course sys (.check attempt)).1 = seats columns course sys := by
  by_cases allowed : OwnRecord attempt ∧ (enrolled course sys.db : Int) < course.capacity
  · rw [check_allowed columns rt course allowed]
    unfold seats
    rw [pending_append]
    split
    · rename_i insertable
      have counted : attempt.studentId ∈ pending columns course sys := by
        by_contra new
        exact keeps ⟨allowed, insertable, new⟩
      rw [Finset.insert_eq_of_mem counted]
    · rfl
  · rw [check_denied columns rt course allowed]

theorem mem_eraseIdx {inFlight : List (AddAttempt courseId)} {i : Nat}
    {attempt : AddAttempt courseId} (here : inFlight[i]? = some attempt) {s : String}
    (other : s ≠ attempt.studentId) :
    (∃ a ∈ inFlight.eraseIdx i, a.studentId = s) ↔ ∃ a ∈ inFlight, a.studentId = s := by
  constructor
  · intro ⟨a, mem, same⟩
    exact ⟨a, List.mem_of_mem_eraseIdx mem, same⟩
  · intro ⟨a, mem, same⟩
    obtain ⟨j, found⟩ := List.mem_iff_getElem?.mp mem
    refine ⟨a, List.mem_eraseIdx_iff_getElem?.mpr ⟨j, ?_, found⟩, same⟩
    intro equal
    rw [equal, here] at found
    cases found
    exact other same.symm

theorem insertable_added {db' : Database} (students : db'.students = db.students)
    (rows : db'.enrollments.rows = db.enrollments.rows ++ [newEnrollment studentId courseId semester])
    (s : String) :
    Insertable columns db' s courseId semester ↔
      Insertable columns db s courseId semester ∧ s ≠ studentId := by
  have free : (s, courseId, semester) ∉ db'.enrollments.rows.map EnrollmentEntity.key ↔
      (s, courseId, semester) ∉ db.enrollments.rows.map EnrollmentEntity.key ∧ s ≠ studentId := by
    rw [rows, List.map_append, List.mem_append, not_or]
    simp [newEnrollment, EnrollmentEntity.key]
  constructor
  · intro can
    exact ⟨⟨students ▸ can.known, (free.mp can.free).1, can.taken⟩, (free.mp can.free).2⟩
  · intro ⟨can, other⟩
    exact ⟨students.symm ▸ can.known, free.mpr ⟨can.free, other⟩, can.taken⟩

theorem enrolled_added {db db' : Database}
    (rows : db'.enrollments.rows = db.enrollments.rows ++ [newEnrollment studentId course.courseId semester]) :
    enrolled course db' = enrolled course db + 1 := by
  unfold enrolled enrolledStudents
  rw [rows]
  simp [newEnrollment]

theorem call_some {sys : System course.courseId} {i : Nat} {attempt : AddAttempt course.courseId}
    (here : sys.inFlight[i]? = some attempt) :
    (takeStep columns rt course sys (.call i)).1 =
      ⟨afterAdd columns sys.db course.courseId attempt.studentId,
        sys.inFlight.eraseIdx i⟩ := by
  unfold takeStep
  dsimp only
  rw [here]
  rfl

theorem pending_inserted {sys : System course.courseId} {i : Nat}
    {attempt : AddAttempt course.courseId} (here : sys.inFlight[i]? = some attempt)
    {db' : Database} (students : db'.students = sys.db.students)
    (rows : db'.enrollments.rows =
      sys.db.enrollments.rows ++ [newEnrollment attempt.studentId course.courseId semester]) :
    pending columns course ⟨db', sys.inFlight.eraseIdx i⟩ =
      (pending columns course sys).erase attempt.studentId := by
  ext s
  rw [Finset.mem_erase, mem_pending, mem_pending, insertable_added columns students rows]
  constructor
  · intro ⟨flight, can, other⟩
    exact ⟨other, (mem_eraseIdx here other).mp flight, can⟩
  · intro ⟨other, flight, can⟩
    exact ⟨(mem_eraseIdx here other).mpr flight, can, other⟩

theorem pending_refused {sys : System course.courseId} {i : Nat}
    {attempt : AddAttempt course.courseId} (here : sys.inFlight[i]? = some attempt)
    (refused : ¬ Insertable columns sys.db attempt.studentId course.courseId semester) :
    pending columns course ⟨sys.db, sys.inFlight.eraseIdx i⟩ = pending columns course sys := by
  ext s
  rw [mem_pending, mem_pending]
  have other (can : Insertable columns sys.db s course.courseId semester) : s ≠ attempt.studentId := by
    intro same
    exact refused (same ▸ can)
  exact and_congr_left fun can => mem_eraseIdx here (other can)

theorem call_seats (sys : System course.courseId) (i : Nat) :
    seats columns course (takeStep columns rt course sys (.call i)).1 = seats columns course sys := by
  cases here : sys.inFlight[i]? with
  | none =>
      unfold takeStep
      dsimp only
      rw [here]
  | some attempt =>
      rw [call_some columns rt course here]
      unfold seats
      by_cases insertable : Insertable columns sys.db attempt.studentId course.courseId semester
      · obtain ⟨students, rows⟩ := afterAdd_inserts insertable
        have counted : attempt.studentId ∈ pending columns course sys :=
          (mem_pending columns course).mpr ⟨⟨attempt, List.mem_of_getElem? here, rfl⟩, insertable⟩
        have card := Finset.card_erase_add_one counted
        rw [pending_inserted columns course here students rows, enrolled_added course rows]
        omega
      · rw [afterAdd_refused insertable, pending_refused columns course here insertable]

/-! ## Runs -/

/-- No seat is promised twice: an attempt that takes a seat finds one that no other attempt in
flight is going to take. -/
def Reserved (sys : System course.courseId) : AttemptStep course.courseId → Prop
  | .check attempt => Takes columns course sys attempt → (seats columns course sys : Int) < course.capacity
  | .call _ => True

def Fits (sys : System course.courseId) : Prop := (enrolled course sys.db : Int) ≤ course.capacity

theorem step_seats (sys : System course.courseId) (c : AttemptStep course.courseId) :
    seats columns course sys ≤ seats columns course ((attempts columns rt course).step sys c).1 := by
  cases c with
  | check attempt =>
      by_cases takes : Takes columns course sys attempt
      · exact (Nat.le_succ _).trans_eq (check_takes columns rt course takes).symm
      · exact (check_keeps columns rt course takes).ge
  | call i => exact (call_seats columns rt course sys i).ge

theorem run_seats (sys : System course.courseId) (cs : List (AttemptStep course.courseId)) :
    seats columns course sys ≤ seats columns course ((attempts columns rt course).run sys cs).1 := by
  induction cs generalizing sys with
  | nil => exact le_rfl
  | cons c cs ih => exact (step_seats columns rt course sys c).trans (ih _)

theorem step_reserved {sys : System course.courseId} {c : AttemptStep course.courseId}
    (reserved : Reserved columns course sys c) (fits : (seats columns course sys : Int) ≤ course.capacity) :
    (seats columns course ((attempts columns rt course).step sys c).1 : Int) ≤ course.capacity := by
  cases c with
  | check attempt =>
      by_cases takes : Takes columns course sys attempt
      · have space := reserved takes
        have grown : seats columns course ((attempts columns rt course).step sys (.check attempt)).1 = _ :=
          check_takes columns rt course takes
        omega
      · rwa [show seats columns course ((attempts columns rt course).step sys (.check attempt)).1 = _ from
          check_keeps columns rt course takes]
  | call i =>
      rwa [show seats columns course ((attempts columns rt course).step sys (.call i)).1 = _ from
        call_seats columns rt course sys i]

theorem run_reserved {sys : System course.courseId} {cs : List (AttemptStep course.courseId)}
    (fits : (seats columns course ((attempts columns rt course).run sys cs).1 : Int) ≤ course.capacity) :
    (attempts columns rt course).Along (Reserved columns course) sys cs := by
  induction cs generalizing sys with
  | nil => trivial
  | cons c cs ih =>
      refine ⟨?_, ih fits⟩
      cases c with
      | call i => trivial
      | check attempt =>
          -- no step gives a seat back, so the one taken here is still taken at the end
          intro takes
          have grown : seats columns course ((attempts columns rt course).step sys (.check attempt)).1 = _ :=
            check_takes columns rt course takes
          have later := run_seats columns rt course ((attempts columns rt course).step sys (.check attempt)).1 cs
          change (seats columns course ((attempts columns rt course).run
            ((attempts columns rt course).step sys (.check attempt)).1 cs).1 : Int) ≤ _ at fits
          omega

theorem seats_of_quiet {sys : System course.courseId} (quiet : sys.inFlight = []) :
    seats columns course sys = enrolled course sys.db := by
  unfold seats pending
  rw [quiet]
  rfl

/-- The capacity holds in every state if no seat is promised twice, and only then if all attempts in
flight come to their call. -/
theorem capacity_kept_iff (sys : System course.courseId) (quiet : sys.inFlight = [])
    (fits : Fits course sys) (cs : List (AttemptStep course.courseId)) :
    ((attempts columns rt course).Along (Reserved columns course) sys cs →
      (attempts columns rt course).Always (Fits course) sys cs) ∧
    (((attempts columns rt course).run sys cs).1.inFlight = [] →
      ((attempts columns rt course).Always (Fits course) sys cs ↔
        (attempts columns rt course).Along (Reserved columns course) sys cs)) := by
  have kept (reserved : (attempts columns rt course).Along (Reserved columns course) sys cs) :
      (attempts columns rt course).Always (Fits course) sys cs := by
    have start : (seats columns course sys : Int) ≤ course.capacity := by
      rwa [seats_of_quiet columns course quiet]
    have always := Machine.always_of_invariant
      (Q := fun sys => (seats columns course sys : Int) ≤ course.capacity)
      (fun _ _ here fits => step_reserved columns rt course here fits) reserved start
    intro before initial
    have bound := always before initial
    unfold seats at bound
    unfold Fits
    omega
  refine ⟨kept, fun ends => ⟨fun always => ?_, kept⟩⟩
  apply run_reserved
  rw [seats_of_quiet columns course ends]
  exact always cs (List.prefix_refl cs)

def Serial (sys : System course.courseId) : AttemptStep course.courseId → Prop
  | .check _ => sys.inFlight = []
  | .call _ => True

theorem serial_reserved {sys : System course.courseId} {cs : List (AttemptStep course.courseId)}
    (serial : (attempts columns rt course).Along (Serial course) sys cs) :
    (attempts columns rt course).Along (Reserved columns course) sys cs := by
  apply serial.mono
  intro sys c quiet
  cases c with
  | check attempt =>
      intro takes
      rw [seats_of_quiet columns course quiet]
      exact takes.1.2
  | call i => trivial

end

/-! Two students, one seat, and both checks before the first call. -/

def oneSeat : Course := ⟨"CS101", "instructor_smith", 1, true⟩

def emptyCourse : System "CS101" := ⟨⟨["S001", "S002"], ⟨[], List.nodup_nil⟩, []⟩, []⟩

def selfAdd (studentId : String) : AddAttempt "CS101" where
  input :=
    { session := ⟨studentId, "session-1", "student", none⟩
      toolName := "enrollment_modify"
      toolArgs := [("student_id", .str studentId), ("course_id", .str "CS101"),
        ("action", .str "add")] }
  studentId := studentId
  tool := rfl
  course := rfl
  student := rfl
  action := rfl

theorem overlapping_attempts_overbook :
    ¬ (attempts .schema .ascii oneSeat).Always (Fits oneSeat) emptyCourse
      [.check (selfAdd "S001"), .check (selfAdd "S002"), .call 0, .call 0] := by
  intro always
  have fits := always _ (List.prefix_refl _)
  have exceeded : ¬ (2 : Int) ≤ 1 := by decide
  exact exceeded fits

theorem second_attempt_denied :
    (attempts .schema .ascii oneSeat).Always (Fits oneSeat) emptyCourse
      [.check (selfAdd "S001"), .call 0, .check (selfAdd "S002")] :=
  (capacity_kept_iff .schema .ascii oneSeat emptyCourse rfl Int.one_nonneg
    [.check (selfAdd "S001"), .call 0, .check (selfAdd "S002")]).1
      (serial_reserved .schema .ascii oneSeat ⟨rfl, trivial, rfl, trivial⟩)

end RealityAI.Proof.Enrollment
