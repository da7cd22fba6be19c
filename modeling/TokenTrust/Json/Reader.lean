/-
# Reading JSON

A reader consumes octets from the front of a document and fails at the first octet that
cannot go on.  This module has the pieces: blanks, words, strings, numbers, and the commas
of lists and objects.  `Json.Document` puts them together.

Two loops cannot recurse on the data alone, since they read a part and go on with what it
left: the loop over the escapes of a string and the loops over lists and objects.  Each takes
its bound from the length of the input, one step for one octet at least, so the bound is
never met.
-/
import TokenTrust.Json.Fault
import TokenTrust.Text.Utf8

namespace TokenTrust
namespace Json

/-- Consumes octets of a document, or fails. -/
abbrev Reader := StateT (List UInt8) (Except Fault)

namespace Reader

variable {α σ : Type}

/-! ## 1. Octets -/

/-- The blanks between the parts of a document: space, line feed, carriage return, tab. -/
def isSpace (b : UInt8) : Bool :=
  b == 0x20 || b == 0x0A || b == 0x0D || b == 0x09

def isDigit (b : UInt8) : Bool :=
  0x30 ≤ b && b ≤ 0x39

/-- The octet of an ASCII character. -/
def octet (c : Char) : UInt8 := c.toNat.toUInt8

/-- The next octet, which stays. -/
def peek : Reader (Option UInt8) := do
  return (← get).head?

/-- Consumes one octet, if there is one. -/
def skip : Reader Unit :=
  modify (List.drop 1)

/-- Consumes blanks and shows the octet after them. -/
def next : Reader (Option UInt8) := do
  modify (List.dropWhile isSpace)
  peek

/-- Consumes the digits that come next. -/
def digits : Reader (List UInt8) := do
  let input ← get
  set (input.dropWhile isDigit)
  return input.takeWhile isDigit

/-- Consumes the rest of a word whose first letter is known. -/
def word : List Char → Reader Unit
  | [] => return
  | c :: cs => do
    match ← peek with
    | none => throw .endInValue
    | some b =>
      if b == octet c then do skip; word cs
      else throw .expectedWord

/-! ## 2. Strings -/

/-- The value of four hexadecimal digits. -/
def hex4 : Reader Nat := do
  match ← get with
  | a :: b :: c :: d :: rest =>
    set rest
    let digit? (x : UInt8) := Text.hexDigit? (Char.ofNat x.toNat)
    match digit? a, digit? b, digit? c, digit? d with
    | some w, some x, some y, some z => return w * 4096 + x * 256 + y * 16 + z
    | _, _, _, _ => throw .invalidEscape
  | _ => throw .endInString

/-- Consumes one octet of the second half of a surrogate pair. -/
def pairOctet (c : Char) : Reader Unit := do
  match ← peek with
  | none => throw .endInString
  | some b => if b == octet c then skip else throw .unpairedEscape

/-- The character of an escape by code unit: one unit, or two that form a surrogate pair. -/
def unicodeEscape : Reader Char := do
  let unit ← hex4
  if 0xDC00 ≤ unit ∧ unit ≤ 0xDFFF then throw .loneSurrogate
  if unit < 0xD800 ∨ 0xDBFF < unit then return Char.ofNat unit
  pairOctet '\\'
  pairOctet 'u'
  let second ← hex4
  if second < 0xDC00 ∨ 0xDFFF < second then throw .loneSurrogate
  return Char.ofNat (0x10000 + (unit - 0xD800) * 0x400 + (second - 0xDC00))

/-- The character of an escape of one letter. -/
def shortEscape? (b : UInt8) : Option Char :=
  if b == octet '"' then some '"'
  else if b == octet '\\' then some '\\'
  else if b == octet '/' then some '/'
  else if b == octet 'b' then some '\x08'
  else if b == octet 'f' then some '\x0c'
  else if b == octet 'n' then some '\n'
  else if b == octet 'r' then some '\r'
  else if b == octet 't' then some '\t'
  else none

/-- The octets of the escape after a backslash. -/
def escape : Reader (List UInt8) := do
  match ← peek with
  | none => throw .endInString
  | some b =>
    skip
    match shortEscape? b with
    | some c => return Text.Utf8.encodeChar c
    | none =>
      if b == octet 'u' then return Text.Utf8.encodeChar (← unicodeEscape)
      else throw .invalidEscape

/-- Whether an octet of a string stands for itself. -/
def isPlain (b : UInt8) : Bool :=
  0x20 ≤ b && b != octet '"' && b != octet '\\'

/-- The octets of a string up to its closing quote, which is consumed. -/
def stringOctets : Nat → Reader (List UInt8)
  | 0 => throw .endInString
  | bound + 1 => do
    let input ← get
    let plain := input.takeWhile isPlain
    set (input.dropWhile isPlain)
    match ← peek with
    | none => throw .endInString
    | some b =>
      skip
      if b == octet '"' then return plain
      else if b == octet '\\' then
        let octets ← escape
        let rest ← stringOctets bound
        return plain ++ octets ++ rest
      else throw .controlCharacter

/-- A string after its opening quote. -/
def string : Reader String := do
  let octets ← stringOctets ((← get).length + 1)
  match Text.Utf8.text? octets with
  | some s => return s
  | none => throw .invalidCodePoint

/-! ## 3. Numbers -/

/-- The largest significand that is read exactly. -/
def greatestSignificand : Nat := 0xFFFFFFFFFFFFFFFF

/-- Appends digits to a significand while it fits sixty-four bits.  The second part is the
digits that no longer fit. -/
def accumulate : Nat → List UInt8 → Nat × List UInt8
  | s, [] => (s, [])
  | s, b :: bs =>
    let t := 10 * s + (b.toNat - 0x30)
    if greatestSignificand < t then (s, b :: bs) else accumulate t bs

/-- The double nearest to `10 ^ 308`, the greatest power of ten that has one. -/
def greatestTen : Binary64 := ⟨false, 5010420900022432, 971⟩

/-- `x · 10 ^ power` as a product or a quotient of doubles, rounded at every step: powers of
ten beyond the largest double are taken in parts. -/
def scale (x : Binary64) (power : Int) : Except Fault Binary64 :=
  if power < -308 then
    if x.isZero then .ok x
    else match x.div? greatestTen with
      | some y => scale y (power + 308)
      | none => .error .numberOutOfRange
  else if 308 < power then
    if x.isZero then .ok x else .error .numberOutOfRange
  else
    let ten := Binary64.tenPow? power.natAbs
    match if 0 ≤ power then ten.bind x.mul? else ten.bind x.div? with
    | some y => .ok y
    | none => .error .numberOutOfRange
  termination_by (-power).toNat

/-- The double of a significand and a power of ten. -/
def assemble (negative : Bool) (significand : Nat) (power : Int) : Except Fault Number :=
  match Binary64.ofNat? significand with
  | some x => (scale x power).map fun y => .double (y.withSign negative)
  | none => .error .numberOutOfRange

/-- The largest power of ten that an exponent may spell. -/
def greatestExponent : Nat := 0x7FFFFFFF

/-- A number from its exponent mark on. -/
def exponent (negative : Bool) (significand : Nat) (power : Int) : Reader Number := do
  skip
  let sign ← peek
  if sign == some (octet '+') || sign == some (octet '-') then skip
  let down := sign == some (octet '-')
  match ← peek with
  | none => throw .endInValue
  | some b => if !isDigit b then throw .invalidNumber
  let ds ← digits
  let e := ds.foldl (fun n b => 10 * n + (b.toNat - 0x30)) 0
  if greatestExponent < e then
    if significand ≠ 0 ∧ !down then throw .numberOutOfRange
    return .double (.zero negative)
  else
    assemble negative significand (if down then power - (e : Int) else power + (e : Int))

/-- Goes on with an exponent if there is one. -/
def orExponent (negative : Bool) (significand : Nat) (power : Int)
    (otherwise : Except Fault Number) : Reader Number := do
  let b ← peek
  if b == some (octet 'e') || b == some (octet 'E') then exponent negative significand power
  else otherwise

/-- A number from its point on.  Digits that no longer fit the significand are dropped. -/
def fraction (negative : Bool) (significand : Nat) (power : Int) : Reader Number := do
  skip
  let ds ← digits
  if ds.isEmpty then
    match ← peek with
    | none => throw .endInValue
    | some _ => throw .invalidNumber
  let (s, left) := accumulate significand ds
  let p := power - ((ds.length - left.length : Nat) : Int)
  orExponent negative s p (assemble negative s p)

/-- An integer that needs no point and no exponent.  Below zero it has to fit sixty-four bits
with a sign, and minus zero is a double. -/
def whole (negative : Bool) (significand : Nat) : Except Fault Number :=
  if !negative then .ok (.int significand)
  else if significand = 0 ∨ 0x8000000000000000 < significand then
    match Binary64.ofNat? significand with
    | some x => .ok (.double (x.withSign true))
    | none => .error .numberOutOfRange
  else .ok (.int (-(significand : Int)))

/-- A number after its sign. -/
def number (negative : Bool) : Reader Number := do
  match ← peek with
  | none => throw .endInValue
  | some b => if !isDigit b then throw .invalidNumber
  let ds ← digits
  if ds.head? == some (octet '0') && ds.length > 1 then throw .invalidNumber
  let (s, left) := accumulate 0 ds
  let power : Int := left.length
  if (← peek) == some (octet '.') then fraction negative s power
  else
    orExponent negative s power
      (if left.isEmpty then whole negative s else assemble negative s power)

/-! ## 4. Commas -/

/-- Whether a list goes on: consumes the comma before an item that is not the first. -/
def moreItems (first : Bool) : Reader Bool := do
  match ← next with
  | none => throw .endInList
  | some b =>
    if b == octet ']' then return false
    else if first then return true
    else if b == octet ',' then
      skip
      match ← next with
      | none => throw .endInValue
      | some b => if b == octet ']' then throw .trailingComma else return true
    else throw .expectedListCommaOrEnd

/-- Whether an object goes on: consumes the comma before a member that is not the first. -/
def moreMembers (first : Bool) : Reader Bool := do
  match ← next with
  | none => throw .endInObject
  | some b =>
    if b == octet '}' then return false
    else if first then
      if b == octet '"' then return true else throw .keyNotString
    else if b == octet ',' then
      skip
      match ← next with
      | none => throw .endInValue
      | some b =>
        if b == octet '"' then return true
        else if b == octet '}' then throw .trailingComma
        else throw .keyNotString
    else throw .expectedObjectCommaOrEnd

/-- The bracket that ends a list. -/
def endList : Reader Unit := do
  match ← next with
  | none => throw .endInList
  | some b =>
    if b == octet ']' then skip
    else if b == octet ',' then
      skip
      if (← next) == some (octet ']') then throw .trailingComma else throw .trailingCharacters
    else throw .trailingCharacters

/-- The brace that ends an object. -/
def endObject : Reader Unit := do
  match ← next with
  | none => throw .endInObject
  | some b =>
    if b == octet '}' then skip
    else if b == octet ',' then throw .trailingComma
    else throw .trailingCharacters

/-- The colon after the name of a member. -/
def colon : Reader Unit := do
  match ← next with
  | none => throw .endInObject
  | some b => if b == octet ':' then skip else throw .expectedColon

/-- The name of a member, from its opening quote to the colon after it. -/
def memberName : Reader String := do
  skip
  string

/-- Feeds the items of a list to `step`. -/
def foldItems (step : σ → Reader σ) : Nat → Bool → σ → Reader σ
  | 0, _, _ => throw .endInList
  | bound + 1, first, s => do
    if ← moreItems first then foldItems step bound false (← step s) else return s

/-- Feeds the names of an object to `step`, which reads the colon and the value. -/
def foldMembers (step : σ → String → Reader σ) : Nat → Bool → σ → Reader σ
  | 0, _, _ => throw .endInObject
  | bound + 1, first, s => do
    if ← moreMembers first then
      let name ← memberName
      foldMembers step bound false (← step s name)
    else return s

/-- The items of a list after its opening bracket, up to and with the closing one. -/
def items (item : Reader α) : Reader (List α) := do
  let bound := (← get).length + 1
  let reversed ← foldItems (fun vs => do return (← item) :: vs) bound true []
  endList
  return reversed.reverse

/-- The members of an object after its opening brace, up to and with the closing one. -/
def members (value : Reader Value) : Reader Members := do
  let bound := (← get).length + 1
  let step (ms : Members) (name : String) : Reader Members := do
    colon
    return ms.insert name (← value)
  let ms ← foldMembers step bound true []
  endObject
  return ms

end Reader
end Json
end TokenTrust
