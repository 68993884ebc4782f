/-! Values of data files and of issue fields: null, truth values, integers, decimals, numbers without a finite value,
texts, lists, and records whose fields keep the order in which they were set. -/

namespace ProblemLint

inductive Unbounded where
  | notANumber
  | infinite
  | minusInfinite
  deriving DecidableEq

inductive Value where
  | null
  | bool (b : Bool)
  | int (n : Int)
  /-- The number `mantissa * 10 ^ (-places)`. -/
  | decimal (mantissa : Int) (places : Int)
  | unbounded (u : Unbounded)
  | str (s : String)
  | list (items : List Value)
  | record (fields : List (String × Value))
  deriving Inhabited

/-- Fields in the order in which they were first set, each name once. -/
abbrev Fields := List (String × Value)

namespace Fields

def get? (fs : Fields) (key : String) : Option Value := (fs.find? (·.1 == key)).map (·.2)

/-- Sets a field: in its place if there is one of that name, else at the end. -/
def set (fs : Fields) (key : String) (v : Value) : Fields :=
  if fs.any (·.1 == key) then fs.map fun f => if f.1 == key then (key, v) else f
  else fs ++ [(key, v)]

def erase (fs : Fields) (key : String) : Fields := fs.filter (·.1 != key)

end Fields

namespace Value

def get? (v : Value) (key : String) : Option Value :=
  match v with
  | .record fs => Fields.get? fs key
  | _ => none

def fields? : Value → Option Fields
  | .record fs => some fs
  | _ => none

def items? : Value → Option (List Value)
  | .list xs => some xs
  | _ => none

def str? : Value → Option String
  | .str s => some s
  | _ => none

/-- An integer; a truth value counts as 1 or 0. -/
def int? : Value → Option Int
  | .int n => some n
  | .bool b => some (if b then 1 else 0)
  | _ => none

/-- Null, false, zero and everything empty count as false. -/
def truthy : Value → Bool
  | .null => false
  | .bool b => b
  | .int n => n != 0
  | .decimal m _ => m != 0
  | .unbounded _ => true
  | .str s => s != ""
  | .list xs => !xs.isEmpty
  | .record fs => !fs.isEmpty

end Value
end ProblemLint
