/-
# Distinguished encoding rules

What of these rules the structures of public keys need: elements with an identifier octet, a
length in its shortest form and contents, and three kinds of contents.

A reader consumes octets from the left and fails without saying why, because a structure that
does not follow the rules is refused as a whole.  `whole` asks that nothing is left; it is used
for a document and for the contents of each element that holds others.
-/
import TokenTrust.Number.Octets

namespace TokenTrust
namespace Asn1

/-! ## 1. Identifiers -/

namespace Tag

def integer : UInt8 := 0x02
def bitString : UInt8 := 0x03
def null : UInt8 := 0x05
def objectId : UInt8 := 0x06
def sequence : UInt8 := 0x30

/-- The identifiers of the universal class that are understood. -/
def universal : List UInt8 :=
  [0x01, 0x02, 0x03, 0x04, 0x05, 0x06, 0x09, 0x0A, 0x0C, 0x12, 0x13, 0x14, 0x15, 0x16, 0x17, 0x18,
    0x1A, 0x1B, 0x1E, 0x30, 0x31]

/-- Whether an identifier octet is understood.  In the other classes every number of one octet
is. -/
def isKnown (b : UInt8) : Bool :=
  if b < 0x40 then universal.contains b else b.toNat % 32 != 31

end Tag

/-- An element. -/
structure Element where
  tag : UInt8
  contents : List UInt8
  deriving DecidableEq, Repr

/-! ## 2. Writing -/

/-- The octets of a length. -/
def lengthOctets (n : Nat) : List UInt8 :=
  if n < 0x80 then [n.toUInt8]
  else
    let digits := Octets.minimal n
    (0x80 + digits.length).toUInt8 :: digits

/-- The octets of an element. -/
def Element.octets (e : Element) : List UInt8 :=
  e.tag :: lengthOctets e.contents.length ++ e.contents

/-! ## 3. Reading -/

/-- A reader takes octets from the left. -/
abbrev Reader := StateT (List UInt8) Option

/-- The next octet. -/
def octet : Reader UInt8 := do
  match ← get with
  | b :: rest => set rest; return b
  | [] => failure

/-- The next `n` octets. -/
def take (n : Nat) : Reader (List UInt8) := do
  let bs ← get
  if bs.length < n then failure
  set (bs.drop n)
  return bs.take n

/-- The greatest length that is understood. -/
def maxLength : Nat := 0xFFFFFFF

/-- A length.  It has to be written as `lengthOctets` writes it. -/
def length : Reader Nat := do
  let b ← octet
  if b < 0x80 then return b.toNat
  let digits ← take (b.toNat - 0x80)
  let n := Octets.value digits
  if maxLength < n ∨ lengthOctets n ≠ b :: digits then failure
  return n

/-- An element of any kind that is understood. -/
def element : Reader Element := do
  let tag ← octet
  if !Tag.isKnown tag then failure
  let n ← length
  return ⟨tag, ← take n⟩

/-- The contents of an element of one kind. -/
def contents (tag : UInt8) : Reader (List UInt8) := do
  let e ← element
  if e.tag ≠ tag then failure
  return e.contents

/-- Reads octets to their end. -/
def whole {α : Type} (r : Reader α) (bs : List UInt8) : Option α := do
  let (a, rest) ← r.run bs
  if rest.isEmpty then return a else none

/-- An element that holds others, read by `r`. -/
def sequence {α : Type} (r : Reader α) : Reader α := do
  let bs ← contents Tag.sequence
  whole r bs

/-! ## 4. Contents -/

/-- A bit string: how many bits of the last octet are unused, and the octets. -/
structure BitString where
  unused : Nat
  octets : List UInt8
  deriving DecidableEq, Repr

/-- The octets, if all their bits are used. -/
def BitString.octets? (s : BitString) : Option (List UInt8) :=
  if s.unused = 0 then some s.octets else none

/-- A bit string.  Without octets there are no unused bits. -/
def bitString : Reader BitString := do
  match ← contents Tag.bitString with
  | [] => failure
  | unused :: octets =>
    if 7 < unused ∨ (unused ≠ 0 ∧ octets = []) then failure
    return ⟨unused.toNat, octets⟩

/-- The contents of an integer that is not negative. -/
def naturalOctets (n : Nat) : List UInt8 :=
  match Octets.minimal n with
  | [] => [0]
  | b :: rest => if b < 0x80 then b :: rest else 0 :: b :: rest

/-- An integer that is not negative.  It has to be written as `naturalOctets` writes it. -/
def natural : Reader Nat := do
  let bs ← contents Tag.integer
  let n := Octets.value bs
  if naturalOctets n ≠ bs then failure
  return n

end Asn1
end TokenTrust
