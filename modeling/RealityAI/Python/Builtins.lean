import RealityAI.Python.Text

/-!
# Built-in functions of the query and planning code

`int`, `str.upper`, `str.split`, `json.dumps` and dicts in the order of insertion.
-/

namespace RealityAI.Python

/-- The Unicode data that the handlers of a plan read as well; `decimal` is the value of a digit
outside ASCII. -/
structure Builtins extends Interpreter where
  upperText : String → String
  decimal : Char → Option (Fin 10)

def Builtins.ascii : Builtins :=
  { Interpreter.ascii with upperText := id, decimal := fun _ => none }

namespace Builtins
variable (b : Builtins)

def upper (s : String) : String :=
  if s.toList.all fun c => c.toNat < 128 then String.ofList (s.toList.map Char.toUpper)
  else b.upperText s

def split (s : String) : List String :=
  ((s.toList.splitOnP b.tables.isSpace).filter (· ≠ [])).map String.ofList

/-! ## `int` of a text -/

def isIntSpace (c : Char) : Bool :=
  if c.toNat < 128 then (9 ≤ c.toNat && c.toNat ≤ 13) || c.toNat == 32 else b.tables.space c

def digit? (c : Char) : Option (Fin 10) :=
  if c.toNat < 128 then if c.isDigit then some (Fin.ofNat 10 (c.toNat - 48)) else none
  else b.decimal c

def digits? : List Char → Option (List (Fin 10))
  | [] => none
  | [c] => (b.digit? c).map fun d => [d]
  | c :: '_' :: rest => do
      let d ← b.digit? c
      let ds ← digits? rest
      return d :: ds
  | c :: rest => do
      let d ← b.digit? c
      let ds ← digits? rest
      return d :: ds

def maxStrDigits : Nat := 4300

def intText (s : String) : List Char :=
  ((s.toList.dropWhile b.isIntSpace).reverse.dropWhile b.isIntSpace).reverse

def intLiteral (s : String) : Bool × List Char :=
  match b.intText s with
  | '-' :: body => (true, body)
  | '+' :: body => (false, body)
  | body => (false, body)

def int (s : String) : Except PyExc Int :=
  let (negative, body) := b.intLiteral s
  match b.digits? body with
  | none =>
      let shown := String.ofList ((b.reprStr s).toList.take 200)
      .error ⟨.valueError, "invalid literal for int() with base 10: " ++ shown⟩
  | some ds =>
      if maxStrDigits < ds.length then
        .error ⟨.valueError, "Exceeds the limit (" ++ toString maxStrDigits ++
          " digits) for integer string conversion: value has " ++ toString ds.length ++
          " digits; use sys.set_int_max_str_digits() to increase the limit"⟩
      else
        let n : Int := PyFloat.digitsValue ds
        .ok (if negative then -n else n)

end Builtins

/-! ## `json.dumps` -/

def escapeUnit (n : Nat) : List Char := '\\' :: 'u' :: hexDigits 4 n

def dumpsChar (c : Char) : List Char :=
  if c = '"' ∨ c = '\\' then ['\\', c]
  else if c = '\n' then ['\\', 'n']
  else if c = '\r' then ['\\', 'r']
  else if c = '\t' then ['\\', 't']
  else if c.toNat = 12 then ['\\', 'f']
  else if c.toNat = 8 then ['\\', 'b']
  else if 32 ≤ c.toNat ∧ c.toNat < 127 then [c]
  else if c.toNat < 0x10000 then escapeUnit c.toNat
  else
    -- a surrogate pair
    let n := c.toNat - 0x10000
    escapeUnit (0xd800 + n / 0x400) ++ escapeUnit (0xdc00 + n % 0x400)

def dumpsStr (s : String) : String :=
  String.ofList ('"' :: s.toList.flatMap dumpsChar ++ ['"'])

def dumpsFloat : PyFloat → String
  | .nan => "NaN"
  | .inf neg => if neg then "-Infinity" else "Infinity"
  | x => x.repr

namespace Json

mutual

def dumps : Json → String
  | .null => "null"
  | .bool b => if b then "true" else "false"
  | .int n => toString n
  | .float x => dumpsFloat x
  | .str s => dumpsStr s
  | .arr items => "[" ++ ", ".intercalate (dumpsItems items) ++ "]"
  | .obj fields => "\x7b" ++ ", ".intercalate (dumpsFields fields) ++ "\x7d"

def dumpsItems : List Json → List String
  | [] => []
  | x :: xs => x.dumps :: dumpsItems xs

def dumpsFields : List (String × Json) → List String
  | [] => []
  | (k, x) :: xs => (dumpsStr k ++ ": " ++ x.dumps) :: dumpsFields xs

end

end Json

def Dict.items (d : Dict) : List (String × Json) := d.keys.map fun key => (key, d.get key)

/-- `d[key] = update(d.get(key))`, where a new key comes last. -/
def upsert {κ α : Type} [DecidableEq κ] (key : κ) (update : Option α → α) :
    List (κ × α) → List (κ × α)
  | [] => [(key, update none)]
  | (other, a) :: rest =>
      if other = key then (key, update (some a)) :: rest else (other, a) :: upsert key update rest

/-- `sorted(xs, key=key, reverse=True)`: items with equal keys keep their order. -/
def sortedDown {α : Type} (key : α → Rat) (xs : List α) : List α :=
  xs.insertionSort fun a b => key b ≤ key a

example : Builtins.ascii.int " +1_0 " = .ok 10 := by decide +kernel

end RealityAI.Python
