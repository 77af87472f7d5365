import ContextFree.Json.Value

/-! Writing values as JSON and reading them back. -/
namespace ContextFree.Json

class Codec (α : Type) where
  write : α → Value
  read : Value → Except Error α

export Codec (write read)

variable {α : Type}

def mismatch (v : Value) (expected : Expected) : Except Error α :=
  .error (.invalidType (.ofValue v) expected)

instance : Codec String where
  write s := .string s
  read
    | .string s => .ok s
    | v => mismatch v .text

/-- Sizes and places are natural numbers. -/
instance : Codec Nat where
  write n := .nat n
  read
    | .number (.integer n) => if n < 0 then .error (.negative n) else .ok n.toNat
    | v => mismatch v .size

def writeAll [Codec α] (xs : List α) : Value :=
  .array (xs.map write)

def readAll [Codec α] (expected : Expected) : Value → Except Error (List α)
  | .array items => items.mapM read
  | v => mismatch v expected

instance [Codec α] : Codec (List α) where
  write := writeAll
  read := readAll .sequence

/-- The element of an array that stands for field `i` of a record of `count` fields. -/
def element (record : String) (count : Nat) (items : List Value) (i : Nat)
    (readField : Value → Except Error α) : Except Error α :=
  match items[i]? with
  | some v => readField v
  | none => .error (.tooShort items.length record count)

/-- Refuses an array with more elements than a record has fields. -/
def noMore (count : Nat) (items : List Value) : Except Error Unit :=
  if count < items.length then .error (.tooLong items.length) else .ok ()

def field (fields : List (String × Value)) (name : String)
    (readField : Value → Except Error α) : Except Error (Option α) :=
  match Value.field? fields name with
  | some v => (readField v).map some
  | none => .ok none

def require (name : String) : Option α → Except Error α
  | some x => .ok x
  | none => .error (.missingField name)

/-- The name of a variant, and its content if it is given as the only field of an object. -/
def variant : Value → Except Error (String × Option Value)
  | .string name => .ok (name, none)
  | .object [(name, content)] => .ok (name, some content)
  | .object _ => .error .notSingleKey
  | v => mismatch v .stringOrMap

end ContextFree.Json
