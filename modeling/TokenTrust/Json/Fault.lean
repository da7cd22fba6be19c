/-
# Faults of a document

Why a document could not be read: it is not JSON, or it is JSON of another shape than the
reader expects.  A fault names its cause; `Fault.message` words it.
-/
import TokenTrust.Json.Debug

namespace TokenTrust
namespace Json

/-- What stands where a reader expects something else. -/
inductive Found where
  | null
  | bool (value : Bool)
  | number (value : Number)
  | string (value : String)
  | sequence
  | map
  deriving DecidableEq, Repr

/-- What stands there, in words. -/
def Found.describe : Found → String
  | .null => "null"
  | .bool b => "boolean `" ++ toString b ++ "`"
  | .number (.int n) => "integer `" ++ toString n ++ "`"
  | .number (.double x) => "floating point `" ++ x.text ++ "`"
  | .string s => "string " ++ Text.quote s
  | .sequence => "sequence"
  | .map => "map"

inductive Fault where
  /-- The document ends inside a list. -/
  | endInList
  /-- The document ends inside an object. -/
  | endInObject
  /-- The document ends inside a string. -/
  | endInString
  /-- The document ends where a value has to stand. -/
  | endInValue
  | expectedColon
  | expectedListCommaOrEnd
  | expectedObjectCommaOrEnd
  /-- A word that starts like `null`, `true` or `false` and goes on otherwise. -/
  | expectedWord
  | expectedValue
  | invalidEscape
  | invalidNumber
  /-- A number above the largest double. -/
  | numberOutOfRange
  /-- A string whose octets are not UTF-8. -/
  | invalidCodePoint
  | controlCharacter
  | keyNotString
  /-- Half a surrogate pair, or two halves that make no pair. -/
  | loneSurrogate
  /-- The second half of a surrogate pair is missing. -/
  | unpairedEscape
  | trailingComma
  | trailingCharacters
  /-- More than 127 lists and objects inside one another. -/
  | tooDeep
  /-- Well-formed, but of another kind than expected. -/
  | mismatch (found : Found) (expected : String)
  | duplicateField (name : String)
  | missingField (name : String)
  /-- A list of fields that ends before a field that has no default. -/
  | tooShort (length : Nat) (expected : String)
  deriving DecidableEq, Repr

/-- The wording of a fault. -/
def Fault.message : Fault → String
  | .endInList => "EOF while parsing a list"
  | .endInObject => "EOF while parsing an object"
  | .endInString => "EOF while parsing a string"
  | .endInValue => "EOF while parsing a value"
  | .expectedColon => "expected `:`"
  | .expectedListCommaOrEnd => "expected `,` or `]`"
  | .expectedObjectCommaOrEnd => "expected `,` or `\x7d`"
  | .expectedWord => "expected ident"
  | .expectedValue => "expected value"
  | .invalidEscape => "invalid escape"
  | .invalidNumber => "invalid number"
  | .numberOutOfRange => "number out of range"
  | .invalidCodePoint => "invalid unicode code point"
  | .controlCharacter => "control character (\\u0000-\\u001F) found while parsing a string"
  | .keyNotString => "key must be a string"
  | .loneSurrogate => "lone leading surrogate in hex escape"
  | .unpairedEscape => "unexpected end of hex escape"
  | .trailingComma => "trailing comma"
  | .trailingCharacters => "trailing characters"
  | .tooDeep => "recursion limit exceeded"
  | .mismatch found expected => "invalid type: " ++ found.describe ++ ", expected " ++ expected
  | .duplicateField name => "duplicate field `" ++ name ++ "`"
  | .missingField name => "missing field `" ++ name ++ "`"
  | .tooShort n expected => "invalid length " ++ toString n ++ ", expected " ++ expected

end Json
end TokenTrust
