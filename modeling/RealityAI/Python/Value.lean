import RealityAI.Library.Regex.Language
import Mathlib.Algebra.GroupWithZero.Nat
import Mathlib.Data.List.Sort

/-!
# Python values, as far as the agents handle them untyped

JSON values as `json.loads` returns them, with the built-in operations the code applies to values of
unknown type: truth value, membership in a set, `str`, `repr` and `str.strip`.
-/

namespace RealityAI.Python
open Library.Regex

/-- What is taken from the interpreter and left open: its Unicode tables and SHA-256. -/
structure Runtime where
  tables : CharTables
  printable : Char → Bool
  sha256Hex : String → String

def Runtime.ascii : Runtime where
  tables := ⟨fun _ => false, fun _ => false, fun _ => false⟩
  printable _ := false
  sha256Hex s := s

inductive ExcClass where
  | typeError | valueError | keyError | attributeError | validationError | timeoutError | rpcError
  | other
  deriving DecidableEq, Repr

structure PyExc where
  cls : ExcClass
  text : String
  deriving DecidableEq, Repr

instance neZero_ten : NeZero 10 := ⟨by decide⟩

/-- A float, by the digits and the decimal point of its shortest representation. -/
inductive PyFloat where
  | nan
  | inf (neg : Bool)
  | finite (neg : Bool) (digits : List (Fin 10)) (point : Int)
  deriving DecidableEq, Repr

inductive Json where
  | null
  | bool (b : Bool)
  | int (n : Int)
  | float (x : PyFloat)
  | str (s : String)
  | arr (items : List Json)
  | obj (fields : List (String × Json))
  deriving Repr, Inhabited

/-- A `dict` with string keys; of two entries with one key the first counts. -/
abbrev Dict := List (String × Json)

namespace Dict

def get? (d : Dict) (key : String) : Option Json := d.lookup key

def get (d : Dict) (key : String) : Json := (d.get? key).getD .null

def keys (d : Dict) : List String := (d.map Prod.fst).dedup

def has (d : Dict) (key : String) : Bool := (d.get? key).isSome

def set (d : Dict) (key : String) (value : Json) : Dict := (key, value) :: d

theorem get_set_other {d : Dict} {key other : String} {v : Json} (differ : other ≠ key) :
    Dict.get (d.set key v) other = Dict.get d other := by
  have miss : (other == key) = false := beq_eq_false_iff_ne.mpr differ
  simp [Dict.get, Dict.get?, Dict.set, List.lookup_cons, miss]

end Dict

namespace PyFloat

def zero? : PyFloat → Bool
  | .finite _ digits _ => digits.all (· == 0)
  | _ => false

def digitChar (d : Fin 10) : Char := Char.ofNat (48 + d.val)

/-- `repr`: fixed notation when the decimal point lies in -3..16, else exponent notation. -/
def repr : PyFloat → String
  | .nan => "nan"
  | .inf neg => if neg then "-inf" else "inf"
  | .finite neg digits point =>
      let ds := digits.map digitChar
      let body :=
        if point ≤ -4 ∨ 16 < point then
          let tail := if ds.tail = [] then [] else '.' :: ds.tail
          let e := point - 1
          let sign := if e < 0 then '-' else '+'
          let exponent := Nat.toDigits 10 e.natAbs
          let exponent := if exponent.length < 2 then '0' :: exponent else exponent
          ds.take 1 ++ tail ++ 'e' :: sign :: exponent
        else if point ≤ 0 then
          '0' :: '.' :: List.replicate point.natAbs '0' ++ ds
        else if ds.length ≤ point.toNat then
          ds ++ List.replicate (point.toNat - ds.length) '0' ++ ['.', '0']
        else
          ds.take point.toNat ++ '.' :: ds.drop point.toNat
      String.ofList ((if neg then ['-'] else []) ++ body)

end PyFloat

def hexDigits (width n : Nat) : List Char :=
  let ds := Nat.toDigits 16 n
  List.replicate (width - ds.length) '0' ++ ds

namespace Runtime

def isPrintable (rt : Runtime) (c : Char) : Bool :=
  if c.toNat < 128 then 32 ≤ c.toNat && c.toNat < 127 else rt.printable c

def reprChar (rt : Runtime) (quote c : Char) : List Char :=
  if c = quote ∨ c = '\\' then ['\\', c]
  else if c = '\n' then ['\\', 'n']
  else if c = '\r' then ['\\', 'r']
  else if c = '\t' then ['\\', 't']
  else if rt.isPrintable c then [c]
  else if c.toNat < 0x100 then '\\' :: 'x' :: hexDigits 2 c.toNat
  else if c.toNat < 0x10000 then '\\' :: 'u' :: hexDigits 4 c.toNat
  else '\\' :: 'U' :: hexDigits 8 c.toNat

def reprStr (rt : Runtime) (s : String) : String :=
  let quote := if '\'' ∈ s.toList ∧ '"' ∉ s.toList then '"' else '\''
  String.ofList (quote :: s.toList.flatMap (rt.reprChar quote) ++ [quote])

mutual

def repr (rt : Runtime) : Json → String
  | .null => "None"
  | .bool b => if b then "True" else "False"
  | .int n => toString n
  | .float x => x.repr
  | .str s => rt.reprStr s
  | .arr items => "[" ++ ", ".intercalate (rt.reprItems items) ++ "]"
  | .obj fields => "\x7b" ++ ", ".intercalate (rt.reprFields fields) ++ "\x7d"

def reprItems (rt : Runtime) : List Json → List String
  | [] => []
  | x :: xs => rt.repr x :: rt.reprItems xs

def reprFields (rt : Runtime) : List (String × Json) → List String
  | [] => []
  | (k, x) :: xs => (rt.reprStr k ++ ": " ++ rt.repr x) :: rt.reprFields xs

end

def str (rt : Runtime) : Json → String
  | .str s => s
  | v => rt.repr v

def strip (rt : Runtime) (s : String) : String :=
  String.ofList (((s.toList.dropWhile rt.tables.isSpace).reverse.dropWhile
    rt.tables.isSpace).reverse)

end Runtime

namespace Json

def truthy : Json → Bool
  | .null => false
  | .bool b => b
  | .int n => n != 0
  | .float x => !x.zero?
  | .str s => s != ""
  | .arr items => !items.isEmpty
  | .obj fields => !fields.isEmpty

def hashable : Json → Bool
  | .arr _ | .obj _ => false
  | _ => true

def unhashable : Json → PyExc
  | .arr _ => ⟨.typeError, "unhashable type: 'list'"⟩
  | _ => ⟨.typeError, "unhashable type: 'dict'"⟩

def isStr (s : String) : Json → Bool
  | .str t => t == s
  | _ => false

/-- `v in members` for a set of strings: the hash is taken first. -/
def inSet (v : Json) (members : List String) : Except PyExc Bool :=
  if v.hashable then .ok (members.any v.isStr) else .error v.unhashable

def typeName : Json → String
  | .null => "NoneType"
  | .bool _ => "bool"
  | .int _ => "int"
  | .float _ => "float"
  | .str _ => "str"
  | .arr _ => "list"
  | .obj _ => "dict"

def noGet (v : Json) : PyExc :=
  ⟨.attributeError, "'" ++ v.typeName ++ "' object has no attribute 'get'"⟩

def or (a b : Json) : Json := if a.truthy then a else b

theorem str_or_empty (s : String) : (Json.str s).or (.str "") = .str s := by
  by_cases empty : s = ""
  · rw [empty]
    rfl
  · simp [Json.or, truthy, empty]

end Json

def sorted (xs : List String) : List String := xs.insertionSort (· ≤ ·)

theorem sorted_perm (xs : List String) : (sorted xs).Perm xs := List.perm_insertionSort _ xs

theorem sorted_congr {xs ys : List String} (perm : xs.Perm ys) : sorted xs = sorted ys := by
  apply List.Perm.eq_of_pairwise' (r := (· ≤ ·))
  · exact List.pairwise_insertionSort _ xs
  · exact List.pairwise_insertionSort _ ys
  · exact (sorted_perm xs).trans (perm.trans (sorted_perm ys).symm)

/-- The reply of a language model; `parsed` is what `json.loads` makes of a content that is a
string. -/
structure Reply where
  content : Json
  parsed : Option Json

end RealityAI.Python
