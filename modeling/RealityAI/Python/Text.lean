import RealityAI.Python.Value
import Mathlib.Algebra.Group.Nat.Defs
import Mathlib.Algebra.Ring.Int.Defs
import Mathlib.Data.Rat.Defs

/-!
# Texts and numbers

`str.lower`, substring search, the order of floats and the outcomes of `json.loads`.
-/

namespace RealityAI.Python

/-- The interpreter's Unicode data that the safety tiers and the data sources read as well. -/
structure Interpreter extends Runtime where
  lowerText : String → String

def Interpreter.ascii : Interpreter := { Runtime.ascii with lowerText := id }

def Interpreter.lower (it : Interpreter) (s : String) : String :=
  if s.toList.all fun c => c.toNat < 128 then String.ofList (s.toList.map Char.toLower)
  else it.lowerText s

/-- `needle in text` -/
def contains (text needle : String) : Bool :=
  text.toList.tails.any needle.toList.isPrefixOf

namespace PyFloat

def digitsValue (digits : List (Fin 10)) : Nat := digits.foldl (fun n d => 10 * n + d.val) 0

/-- The value of a finite float; shortest representations are ordered as the floats are. -/
def value? : PyFloat → Option Rat
  | .finite neg digits point =>
      let n : Int := digitsValue digits
      let scale := point - digits.length
      let magnitude :=
        if 0 ≤ scale then mkRat (n * 10 ^ scale.toNat) 1 else mkRat n (10 ^ (-scale).toNat)
      some (if neg then -magnitude else magnitude)
  | _ => none

end PyFloat

/-- What `json.loads` does with a text. It raises other exceptions than `JSONDecodeError` for an
integer beyond the digit limit and for values nested too deeply. -/
inductive Loads where
  | value (v : Json)
  | decodeError
  | raises (e : PyExc)

/-- The reply of a model whose content is a text; the agents handle `JSONDecodeError` only. -/
def Loads.reply (content : String) : Loads → Except PyExc Reply
  | .value v => .ok ⟨.str content, some v⟩
  | .decodeError => .ok ⟨.str content, none⟩
  | .raises e => .error e

end RealityAI.Python
