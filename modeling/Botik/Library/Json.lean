import Botik.Library.Text

/-!
# Decoded JSON and Python's conversions

`json.loads` builds the values of this file. `float` and `int` convert them or raise, each value
its own exception: text that is no number is a `ValueError`, a list or an object a `TypeError`, an
infinite number has no integer.

Finite floats are exact rationals here; a literal above the largest double is infinite.

## Main definitions

* `PyFloat`, `PyError`, `Json`, `Loaded`
* `Json.toFloat`, `Json.toInt` — `float(value)` and `int(value)`
* `Json.field?` — the value of a name of an object
-/

/-- A floating-point number, exact where it is finite. -/
inductive PyFloat
  | finite (q : ℚ)
  | infinity (negative : Bool)
  | nan
  deriving DecidableEq, Repr

/-- The exceptions of conversions and of attribute access. -/
inductive PyError
  | typeError
  | valueError
  | overflowError
  | attributeError
  | indexError
  | recursionError
  | osError
  deriving DecidableEq, Repr

/-- What `json.loads` makes of a text. -/
inductive Loaded (α : Type)
  | value (v : α)
  /-- `JSONDecodeError`. -/
  | malformed
  /-- Another exception, as for a text nested too deeply or a number of too many digits. -/
  | raised (e : PyError)

namespace PyFloat

/-- Half a unit above the largest double: from here on a number rounds to infinity. -/
def overflow : ℚ := 2 ^ 1024 - 2 ^ 970

/-- The float of an exact number. -/
def ofRat (q : ℚ) : PyFloat := if |q| < overflow then .finite q else .infinity (q < 0)

/-- `x <= 0`, which is false of `nan`. -/
def nonpos : PyFloat → Bool
  | .finite q => q ≤ 0
  | .infinity negative => negative
  | .nan => false

end PyFloat

namespace Text

/-- Drop the underscores between digits; elsewhere an underscore is no part of a number. -/
def ungroup : List Char → Option (List Char)
  | [] => some []
  | c :: '_' :: d :: cs =>
    if c.isDigit ∧ d.isDigit then (ungroup (d :: cs)).map (c :: ·) else none
  | c :: cs => if c = '_' then none else (ungroup cs).map (c :: ·)

/-- `int(text)`; more than 4300 digits are refused. -/
def pyInt? (s : String) : Option ℤ := do
  let cs ← ungroup s.toList
  if 4300 < (cs.filter Char.isDigit).length then none else int? (String.ofList cs)

/-- `float(text)`. -/
def pyFloat? (s : String) : Option PyFloat := do
  let cs ← ungroup s.toList
  let (negative, body) := splitSign (strip (lower (String.ofList cs))).toList
  if body = "inf".toList ∨ body = "infinity".toList then some (.infinity negative)
  else if body = "nan".toList then some .nan
  else (float? (String.ofList cs)).map PyFloat.ofRat

end Text

/-- A value of `json.loads`. -/
inductive Json
  | null
  | bool (b : Bool)
  | int (n : ℤ)
  | float (x : PyFloat)
  | str (s : String)
  | arr (items : List Json)
  | obj (fields : List (String × Json))

namespace Json

/-- The value of a name; of two fields of one name the later one counts. -/
def field? (fields : List (String × Json)) (name : String) : Option Json :=
  fields.reverse.lookup name

/-- What counts as true. -/
def truthy : Json → Bool
  | .null => false
  | .bool b => b
  | .int n => n ≠ 0
  | .float x => x ≠ .finite 0
  | .str s => s ≠ ""
  | .arr items => ¬ items.isEmpty
  | .obj fields => ¬ fields.isEmpty

/-- `float(value)`. -/
def toFloat : Json → Except PyError PyFloat
  | .bool b => .ok (.finite (if b then 1 else 0))
  | .int n => if |(n : ℚ)| < PyFloat.overflow then .ok (.finite n) else .error .overflowError
  | .float x => .ok x
  | .str s =>
    match Text.pyFloat? s with
    | some x => .ok x
    | none => .error .valueError
  | .null | .arr _ | .obj _ => .error .typeError

/-- `int(value)`. -/
def toInt : Json → Except PyError ℤ
  | .bool b => .ok (if b then 1 else 0)
  | .int n => .ok n
  | .float (.finite q) => .ok (Text.truncate q)
  | .float (.infinity _) => .error .overflowError
  | .float .nan => .error .valueError
  | .str s =>
    match Text.pyInt? s with
    | some n => .ok n
    | none => .error .valueError
  | .null | .arr _ | .obj _ => .error .typeError

example : toInt (.str " -1_000 ") = .ok (-1000) := by decide +kernel

example : toFloat (.str "-Infinity") = .ok (.infinity true) := by decide +kernel

example : toFloat (.arr []) = .error .typeError := by rfl

end Json
