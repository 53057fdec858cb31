import VrfPresence.Decimal.Shortest
import VrfPresence.Toml.Fault

/-!
# Values of a settings file

What a key can be given. Tables are lists of pairs in the order of the source; a key may occur
twice. A dotted key stands for tables within tables: `insert` finds or makes them, and fails
where a key on the way already has a value of another kind.
-/

namespace VrfPresence.Toml

inductive FloatValue
  | finite (negative : Bool) (magnitude : Decimal.Binary64)
  | infinite (negative : Bool)
  | notANumber
  deriving DecidableEq, Repr

/-- A value. The parts of a date or time are not kept; `dotted` tables are those that dotted
keys make. -/
inductive Value
  | integer (value : Int)
  | float (value : FloatValue)
  | boolean (value : Bool)
  | string (text : String)
  | datetime
  | array (items : List (Placed Value))
  | table (dotted : Bool) (pairs : List (String × Placed Value))

abbrev Pair := String × Placed Value

def Value.kind : Value → String
  | .integer _ => "integer"
  | .float _ => "float"
  | .boolean _ => "boolean"
  | .string _ => "string"
  | .datetime => "datetime"
  | .array _ => "array"
  | .table false _ => "inline table"
  | .table true _ => "dotted table"

def FloatValue.text : FloatValue → String
  | .finite negative magnitude => (if negative then "-" else "") ++ magnitude.text
  | .infinite negative => if negative then "-inf" else "inf"
  | .notANumber => "NaN"

/-! ### Pairs -/

/-- Changes the value of the first pair with the key, or adds a pair with a new value. -/
def updateFirst (key : String) (change : Placed Value → Except Fault (Placed Value))
    (fresh : Except Fault (Placed Value)) : List Pair → Except Fault (List Pair)
  | [] => fresh.map fun value => [(key, value)]
  | (other, value) :: pairs =>
    if other = key then (change value).map fun value => (key, value) :: pairs
    else (updateFirst key change fresh pairs).map ((other, value) :: ·)

/-- Adds a value under a dotted key. A key of one part is added as it is; one of several parts
leads through the tables that dotted keys have made, or makes them. -/
def insert : List String → Placed Value → List Pair → Except Fault (List Pair)
  | [], _, pairs => .ok pairs
  | [key], value, pairs => .ok (pairs ++ [(key, value)])
  | key :: keys, value, pairs =>
    updateFirst key
      (fun found =>
        match found.item with
        | .table true inner =>
          (insert keys value inner).map fun inner => ⟨found.offset, .table true inner⟩
        | _ => .error ⟨.keyBelowValue, found.offset, []⟩)
      ((insert keys value []).map fun inner => ⟨value.offset, .table true inner⟩)
      pairs

end VrfPresence.Toml
