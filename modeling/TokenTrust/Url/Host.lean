/-
# Hosts

The host of a URL is a domain name, an IPv4 address or an IPv6 address.  A name whose last
label is a number has to be an IPv4 address, which may be written with fewer than four parts
and in octal or hexadecimal; an IPv6 address stands in brackets.  A URL without a special
scheme keeps its host as it is.
-/
import TokenTrust.Domain.Ascii
import TokenTrust.Url.Percent

namespace TokenTrust
namespace Url

/-! ## 1. Hosts and faults -/

/-- Why a text is not a URL. -/
inductive Fault where
  | emptyHost
  /-- The host is no domain name, for whatever reason. -/
  | invalidDomain
  | invalidPort
  | invalidIpv4
  | invalidIpv6
  /-- A host without a special scheme holds a character that delimits parts. -/
  | invalidDomainCharacter
  /-- There is no scheme. -/
  | relative
  deriving DecidableEq, Repr

/-- The wording of a fault. -/
def Fault.message : Fault → String
  | .emptyHost => "empty host"
  | .invalidDomain => "invalid international domain name"
  | .invalidPort => "invalid port number"
  | .invalidIpv4 => "invalid IPv4 address"
  | .invalidIpv6 => "invalid IPv6 address"
  | .invalidDomainCharacter => "invalid domain character"
  | .relative => "relative URL without a base"

inductive Host where
  | domain (name : String)
  /-- The address as a number of thirty-two bits. -/
  | ipv4 (address : Nat)
  /-- The eight groups of sixteen bits. -/
  | ipv6 (groups : List Nat)
  deriving DecidableEq, Repr

/-! ## 2. IPv4 -/

/-- The digits of a radix. -/
def digitOf? (radix : Nat) (c : Char) : Option Nat :=
  (Text.hexDigit? c).filter (· < radix)

/-- A number in some radix, or nothing if a character is no digit of it. -/
def number? (radix : Nat) (cs : List Char) : Option Nat :=
  cs.foldlM (fun n c => (digitOf? radix c).map (radix * n + ·)) 0

/-- One part of an IPv4 address: decimal, octal after `0`, hexadecimal after `0x`. -/
def ipv4Part? : List Char → Option Nat
  | [] => none
  | '0' :: 'x' :: cs => number? 16 cs
  | '0' :: 'X' :: cs => number? 16 cs
  | '0' :: c :: cs => number? 8 (c :: cs)
  | cs => number? 10 cs

/-- Whether the last label, a final dot aside, is a number. -/
def endsInNumber (cs : List Char) : Bool :=
  let labels := (Text.cut '.' cs).reverse
  let last := match labels with
    | [] :: l :: _ => some l
    | [] :: [] => none
    | l :: _ => some l
    | [] => none
  match last with
  | none => false
  | some l => (!l.isEmpty && l.all Char.isDigit) || (ipv4Part? l).isSome

/-- The address of its parts: each part but the last is one octet, and the last one is the
rest of the address. -/
def ipv4OfParts? : List Nat → Option Nat
  | [a] => if a < 0x100000000 then some a else none
  | [a, b] => if a < 256 ∧ b < 0x1000000 then some (a * 0x1000000 + b) else none
  | [a, b, c] =>
    if a < 256 ∧ b < 256 ∧ c < 0x10000 then some (a * 0x1000000 + b * 0x10000 + c) else none
  | [a, b, c, d] =>
    if a < 256 ∧ b < 256 ∧ c < 256 ∧ d < 256 then
      some (a * 0x1000000 + b * 0x10000 + c * 256 + d)
    else none
  | _ => none

/-- An IPv4 address, with or without a final dot. -/
def ipv4? (cs : List Char) : Option Nat := do
  let labels := Text.cut '.' cs
  let labels := if labels.getLast? = some [] then labels.dropLast else labels
  let parts ← labels.mapM ipv4Part?
  ipv4OfParts? parts

/-- The four octets of an address in decimal, between dots. -/
def ipv4Text (address : Nat) : String :=
  ".".intercalate ([0x1000000, 0x10000, 256, 1].map fun unit => toString (address / unit % 256))

/-! ## 3. IPv6 -/

/-- A group of one to four hexadecimal digits at the front, and what follows it. -/
def ipv6Group (cs : List Char) : Nat × List Char :=
  let ds := (cs.take 4).takeWhile fun c => (Text.hexDigit? c).isSome
  (Text.hexValue ds, cs.drop ds.length)

/-- A decimal octet without a leading zero. -/
def plainOctet? (cs : List Char) : Option Nat :=
  match cs with
  | [] => none
  | '0' :: _ :: _ => none
  | cs => (number? 10 cs).filter (· < 256)

/-- The two groups of an IPv4 address at the end of an IPv6 address. -/
def ipv4Groups? (cs : List Char) : Option (List Nat) := do
  match ← (Text.cut '.' cs).mapM plainOctet? with
  | [a, b, c, d] => return [a * 256 + b, c * 256 + d]
  | _ => none

/-- The groups of one side of the gap, which are separated by single colons.  The last two
may be written as an IPv4 address if it is the end of the whole address. -/
def ipv6Side? (ipv4 : Bool) : List (List Char) → Option (List Nat)
  | [] => some []
  | [last] =>
    if ipv4 && last.contains '.' then ipv4Groups? last
    else group? last >>= fun g => some [g]
  | word :: rest => do
    let g ← group? word
    let gs ← ipv6Side? ipv4 rest
    return g :: gs
where
  /-- One group: one to four hexadecimal digits and nothing else. -/
  group? (word : List Char) : Option Nat :=
    if word.isEmpty then none
    else match ipv6Group word with
      | (g, []) => some g
      | _ => none

/-- Splits at the first two colons in a row. -/
def splitGap : List Char → List Char × Option (List Char)
  | ':' :: ':' :: rest => ([], some rest)
  | [] => ([], none)
  | c :: cs => let (left, right) := splitGap cs; (c :: left, right)

/-- The words of one side of the gap. -/
def ipv6Words (cs : List Char) : List (List Char) :=
  if cs.isEmpty then [] else Text.cut ':' cs

/-- An IPv6 address, without its brackets.  Two colons in a row stand for as many groups of
zeros as are missing, and for one at least. -/
def ipv6? (cs : List Char) : Option (List Nat) :=
  match splitGap cs with
  | (all, none) => do
    let gs ← ipv6Side? true (ipv6Words all)
    if gs.length = 8 then some gs else none
  | (left, some right) => do
    let ls ← ipv6Side? false (ipv6Words left)
    let rs ← ipv6Side? true (ipv6Words right)
    if ls.length + rs.length ≤ 7 then
      some (ls ++ List.replicate (8 - ls.length - rs.length) 0 ++ rs)
    else none

/-- The number of zeros at the front. -/
def zeroRun (gs : List Nat) : Nat :=
  (gs.takeWhile (· == 0)).length

/-- Where the longest run of at least two zeros starts, the first of several, and its
length. -/
def longestZeros (gs : List Nat) : Option (Nat × Nat) :=
  let runs := (List.range gs.length).map fun i => (i, zeroRun (gs.drop i))
  runs.foldl (fun best (i, n) =>
    if n < 2 then best
    else match best with
      | none => some (i, n)
      | some (_, m) => if m < n then some (i, n) else best) none

/-- The text of an address: groups in lower-case hexadecimal, the longest run of zeros left
out. -/
def ipv6Text (gs : List Nat) : String :=
  let side (gs : List Nat) : String :=
    ":".intercalate (gs.map fun g => String.ofList (Nat.toDigits 16 g))
  match longestZeros gs with
  | none => side gs
  | some (i, n) => side (gs.take i) ++ "::" ++ side (gs.drop (i + n))

/-! ## 4. Reading and writing hosts -/

/-- The text of a host. -/
def Host.text : Host → String
  | .domain name => name
  | .ipv4 address => ipv4Text address
  | .ipv6 groups => "[" ++ ipv6Text groups ++ "]"

/-- What stands in brackets, if the text starts with one. -/
def bracketed? : List Char → Option (Except Fault Host)
  | '[' :: cs =>
    some (match cs.getLast? with
      | some ']' =>
        match ipv6? cs.dropLast with
        | some gs => .ok (.ipv6 gs)
        | none => .error .invalidIpv6
      | _ => .error .invalidIpv6)
  | _ => none

/-- The host of a URL with a special scheme. -/
def Host.parse (cs : List Char) : Except Fault Host :=
  match bracketed? cs with
  | some host => host
  | none =>
    match Domain.toAscii? (percentDecode (Text.Utf8.encode cs)) with
    | none => .error .invalidDomain
    | some name =>
      if name.isEmpty then .error .emptyHost
      else if endsInNumber name.toList then
        match ipv4? name.toList with
        | some address => .ok (.ipv4 address)
        | none => .error .invalidIpv4
      else .ok (.domain name)

/-- The characters that no host may hold. -/
def isHostDelimiter (c : Char) : Bool :=
  c.toNat == 0 || "\t\n\r #/:<>?@[\\]^|".toList.contains c

/-- The host of a URL without a special scheme, which may be empty. -/
def Host.parsePlain (cs : List Char) : Except Fault (Option Host) :=
  match bracketed? cs with
  | some host => host.map some
  | none =>
    if cs.any isHostDelimiter then .error .invalidDomainCharacter
    else if cs.isEmpty then .ok none
    else .ok (some (.domain (String.ofList (encode controlSet cs))))

end Url
end TokenTrust
