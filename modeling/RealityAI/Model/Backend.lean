import RealityAI.Model.ActionTools

/-!
# The write tools against a service that may be unreachable
-/

namespace RealityAI.Model.Backend
open Python CoreService ActionTools

structure Server where
  db : Database
  reachable : Bool

def unreachable : PyExc := ⟨.rpcError, "failed to connect to all addresses"⟩

def overChannel {α : Type} (call : Call Database α) : Call Server α := fun b =>
  if b.reachable then
    let (result, db) := call b.db
    (result, { b with db })
  else (.error unreachable, b)

def backendClient (columns : Columns) : CoreServiceClient Server where
  updateGrade studentId courseId semester grade :=
    overChannel ((databaseClient columns).updateGrade studentId courseId semester grade)
  enrollStudent studentId courseId semester :=
    overChannel ((databaseClient columns).enrollStudent studentId courseId semester)
  dropEnrollment studentId courseId semester :=
    overChannel ((databaseClient columns).dropEnrollment studentId courseId semester)
  createAssignment assignment := overChannel ((databaseClient columns).createAssignment assignment)

end RealityAI.Model.Backend
