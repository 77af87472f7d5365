import ContextFree.Decimal
import ContextFree.Span
import ContextFree.Text.Visibility

/-! JSON values, why one cannot be read as a value of the library, and how that is worded. -/
namespace ContextFree.Json

/-- An integer of 64 bits, signed or not, is kept exactly; any other number is a double. -/
inductive Number where
  | integer (n : Int)
  | floating (x : Decimal.Binary64)
deriving DecidableEq

/-- Minus zero is a double, because no integer is. -/
def Number.ofLiteral (l : Decimal.Literal) : Number :=
  let n := l.wholeValue
  if l.isIntegral && !l.negative && n < Nat.pow 2 64 then .integer n
  else if l.isIntegral && l.negative && 0 < n && n ≤ Nat.pow 2 63 then .integer (-n)
  else .floating l.toBinary64

/-- The fields of an object have distinct names, and their order says nothing. -/
inductive Value where
  | null
  | bool (b : Bool)
  | number (n : Number)
  | string (s : String)
  | array (items : List Value)
  | object (fields : List (String × Value))

namespace Value

def nat (n : Nat) : Value :=
  .number (.integer n)

def field? (fields : List (String × Value)) (name : String) : Option Value :=
  fields.lookup name

end Value

inductive Expected where
  | text
  | size
  | sequence
  | set
  | stringOrMap
  | unit
  /-- A record, read from an object or from an array of its fields. -/
  | record (name : String)
deriving DecidableEq

def Expected.render : Expected → String
  | .text => "a string"
  | .size => "usize"
  | .sequence => "a sequence"
  | .set => "a set"
  | .stringOrMap => "string or map"
  | .unit => "unit"
  | .record name => "struct " ++ name

/-- What a reader found instead, as far as a message shows it. -/
inductive Found where
  | null
  | bool (b : Bool)
  | number (n : Number)
  | string (s : String)
  | sequence
  | map
deriving DecidableEq

def Found.ofValue : Value → Found
  | .null => .null
  | .bool b => .bool b
  | .number n => .number n
  | .string s => .string s
  | .array _ => .sequence
  | .object _ => .map

def Found.render : Found → String
  | .null => "null"
  | .bool b => "boolean `" ++ toString b ++ "`"
  | .number (.integer n) => "integer `" ++ toString n ++ "`"
  | .number (.floating x) => "floating point `" ++ x.render ++ "`"
  | .string s => "string " ++ Text.escaped s
  | .sequence => "sequence"
  | .map => "map"

inductive Error where
  | invalidType (found : Found) (expected : Expected)
  /-- A negative number where a size belongs. -/
  | negative (n : Int)
  | missingField (name : String)
  /-- An array with too few elements for the fields of a record. -/
  | tooShort (length : Nat) (record : String) (fields : Nat)
  /-- An array with too many elements for the fields of a record. -/
  | tooLong (length : Nat)
  /-- A name that is none of the variants of an enumeration. -/
  | unknownVariant (name : String) (variants : List String)
  /-- An object that should have the name of a variant as its only key. -/
  | notSingleKey
  /-- A variant without the content that it needs. -/
  | bareVariant
  /-- The bounds of a span are in the wrong order. -/
  | reversed (start stop : Nat)
  /-- A span ends past the end of a source of `size` bytes, or cuts a character of it. -/
  | misfit (span : Span) (size : Nat)
deriving DecidableEq

/-- Names in backquotes: two of them are joined by a word, more are listed. -/
def renderVariants (names : List String) : String :=
  let quoted := names.map fun s => "`" ++ s ++ "`"
  match quoted with
  | [s, t] => s ++ " or " ++ t
  | _ => "one of " ++ ", ".intercalate quoted

def Error.message : Error → String
  | .invalidType found expected =>
    "invalid type: " ++ found.render ++ ", expected " ++ expected.render
  | .negative n => "invalid value: integer `" ++ toString n ++ "`, expected usize"
  | .missingField name => "missing field `" ++ name ++ "`"
  | .tooShort length record fields =>
    "invalid length " ++ toString length ++ ", expected struct " ++ record ++ " with " ++
      toString fields ++ " elements"
  | .tooLong length =>
    "invalid length " ++ toString length ++ ", expected fewer elements in array"
  | .unknownVariant name variants =>
    "unknown variant `" ++ name ++ "`, expected " ++ renderVariants variants
  | .notSingleKey => "invalid value: map, expected map with a single key"
  | .bareVariant => "invalid type: unit variant, expected newtype variant"
  | .reversed start stop =>
    "Span end (" ++ toString stop ++ ") precedes its start (" ++ toString start ++ ")"
  | .misfit span size =>
    "Span " ++ span.render ++ " does not fit a source of " ++ toString size ++ " bytes"

end ContextFree.Json
