/-
# Quoted text

Texts inside messages are quoted so that the quotation is one printable line whatever the
text holds: a few characters have short escapes, and every other character that has no glyph
or would attach to its neighbour is written by its code point.  A list of texts is quoted
element by element between brackets.
-/
import TokenTrust.Text.Property.GraphemeExtend
import TokenTrust.Text.Property.Unprintable

namespace TokenTrust
namespace Text

/-- The lower-case hexadecimal digits of a number. -/
def hex (n : Nat) : String :=
  String.ofList (Nat.toDigits 16 n)

/-- Whether a character is shown as it is.  Printable ASCII is decided without a table. -/
def isShown (c : Char) : Bool :=
  let n := c.toNat
  if n < 0x7F then 0x20 ≤ n
  else !graphemeExtend.contains n && !unprintable.contains n

/-- A character between double quotes. -/
def quoteChar (c : Char) : String :=
  if c = '"' then "\\\""
  else if c = '\\' then "\\\\"
  else if c = '\n' then "\\n"
  else if c = '\r' then "\\r"
  else if c = '\t' then "\\t"
  else if c.toNat = 0 then "\\0"
  else if isShown c then String.ofList [c]
  else "\\u\x7b" ++ hex c.toNat ++ "\x7d"

/-- A text in double quotes. -/
def quote (s : String) : String :=
  "\"" ++ s.toList.foldl (fun out c => out ++ quoteChar c) "" ++ "\""

/-- Parts in brackets, with a comma between each two. -/
def bracketed (parts : List String) : String :=
  "[" ++ ", ".intercalate parts ++ "]"

/-- A list of quoted texts. -/
def quoteList (texts : List String) : String :=
  bracketed (texts.map quote)

/-- An optional text, spelled out. -/
def quoteOption : Option String → String
  | none => "None"
  | some s => "Some(" ++ quote s ++ ")"

/-- A name with named parts, in braces. -/
def record (name : String) (parts : List (String × String)) : String :=
  name ++ " \x7b " ++ ", ".intercalate (parts.map fun (k, v) => k ++ ": " ++ v) ++ " \x7d"

end Text
end TokenTrust
