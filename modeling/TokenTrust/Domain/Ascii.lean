/-
# Domain names in ASCII

The form of a domain name that is sent over the wire and compared: every character replaced by
the one it is compared as, the whole in normal form, and each label with characters outside
ASCII written in Punycode behind `xn--`.  A label that is already written so has to decode to
a label that could have been.

There is one way to fail, and it does not say why.
-/
import TokenTrust.Domain.Label
import TokenTrust.Domain.Punycode
import TokenTrust.Text.Blank
import TokenTrust.Text.Utf8

namespace TokenTrust
namespace Domain

/-- Whether a character is ASCII. -/
def isAscii (c : Char) : Bool := c.toNat < 128

/-- What a label in Punycode starts with. -/
def punycodeMark : List Char := ['x', 'n', '-', '-']

/-- A label as it is read and as it is written. -/
structure Label where
  shown : List Char
  ascii : List Char
  deriving DecidableEq, Repr

/-- How many characters a label outside ASCII may have, and how many its Punycode may have when
it is read.  Both bound the work that a name can cause, not its length on the wire. -/
def maxShown : Nat := 1000
def maxPunycode : Nat := 2000

/-- Whether a label outside ASCII may stand in a name. -/
def isLabel (cs : List Char) : Bool :=
  cs.length ≤ maxShown && !cs.any isForbidden && isValidLabel cs

/-- Checks a label, and writes it in ASCII. -/
def Label.ofMapped? (cs : List Char) : Option Label :=
  if punycodeMark.isPrefixOf cs then do
    let digits := cs.drop 4
    if !cs.all isAscii || maxPunycode < digits.length then none
    let shown ← Punycode.decode digits
    if shown.all isAscii || shown.contains '.' || !isLabel shown then none
    return ⟨shown, cs⟩
  else if cs.all isAscii then
    if cs.any isForbidden then none else some ⟨cs, cs⟩
  else if isLabel cs then some ⟨cs, punycodeMark ++ Punycode.encode cs⟩
  else none

/-- The characters of a name, each replaced, in normal form. -/
def mapAll? (cs : List Char) : Option (List Char) :=
  (cs.mapM mapChar?).map fun parts => normalize parts.flatten

/-- A name of ASCII characters alone, with no label in Punycode: only its case is not kept.
No table is needed for it. -/
def ofPlain? (cs : List Char) : Option String :=
  if cs.any isForbidden then none else some (String.ofList cs)

/-- A name with other characters, or with a label in Punycode. -/
def ofMixed? (cs : List Char) : Option String := do
  let mapped ← mapAll? cs
  let labels ← (Text.cut '.' mapped).mapM Label.ofMapped?
  if labels.any (·.shown.any isRightToLeft) && !labels.all (hasOneDirection ·.shown) then none
  return String.ofList (Text.join '.' (labels.map (·.ascii)))

/-- A domain name in ASCII. -/
def toAscii? (octets : List UInt8) : Option String :=
  match Text.Utf8.decode? octets with
  | none => none
  | some cs =>
    let small := cs.map Char.toLower
    if small.all isAscii && !(Text.cut '.' small).any punycodeMark.isPrefixOf then ofPlain? small
    else ofMixed? cs

end Domain
end TokenTrust
