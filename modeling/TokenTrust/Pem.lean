/-
# PEM

A block of base64 between two lines that name what it holds:

    -----BEGIN label-----
    name: value

    data
    -----END label-----

Text before the first block and after it is passed over.  Between the labels there may be headers,
which an empty line ends; they are checked for their form and dropped.

A marker is searched for in one pass: where it starts and then goes on otherwise, the search
resumes with the character after the deviating one.  So a marker is missed that starts inside
such a false start.
-/
import TokenTrust.Base64
import TokenTrust.Text.Blank
import TokenTrust.Text.Utf8

namespace TokenTrust
namespace Pem

/-! ## 1. Markers -/

def beginMarker : List Char := "-----BEGIN ".toList
def endMarker : List Char := "-----END ".toList
def dashes : List Char := "-----".toList

/-- Reads to the end of the marker, the rest of which is `left`. -/
def scan? (marker : List Char) : List Char → List Char → Option (List Char × List Char)
  | [], cs => some ([], cs)
  | _ :: _, [] => none
  | m :: left, c :: cs =>
    (scan? marker (if c = m then left else marker) cs).map fun (read, rest) => (c :: read, rest)

/-- What stands before a marker and what stands after it. -/
def splitAt? (marker cs : List Char) : Option (List Char × List Char) :=
  (scan? marker marker cs).map fun (read, rest) => (read.take (read.length - marker.length), rest)

/-- The characters that are passed over after a label. -/
def isGap (c : Char) : Bool :=
  c = ' ' || c = '\t' || c = '\n' || c = '\r'

/-! ## 2. Faults -/

/-- Why a text is not a block. -/
inductive Fault where
  /-- A marker is missing. -/
  | framing
  | noBeginLabel
  | noEndLabel
  | labelsDiffer (first last : String)
  | data (fault : Base64.Fault)
  /-- A line among the headers that is none. -/
  | header (line : String)
  deriving DecidableEq, Repr

/-- The wording of a fault. -/
def Fault.message : Fault → String
  | .framing => "malformedframing"
  | .noBeginLabel => "missing BEGIN tag"
  | .noEndLabel => "missing END tag"
  | .labelsDiffer first last =>
    "mismatching BEGIN (\"" ++ first ++ "\") and END (\"" ++ last ++ "\") tags"
  | .data fault => "invalid data: " ++ fault.message
  | .header line => "invalid header: " ++ line

/-! ## 3. Blocks -/

/-- The parts of a block before anything is decoded. -/
structure Frame where
  beginLabel : List Char
  body : List Char
  endLabel : List Char
  deriving DecidableEq, Repr

/-- The first frame of a text. -/
def frame? (cs : List Char) : Option Frame := do
  let (_, cs) ← splitAt? beginMarker cs
  let (beginLabel, cs) ← splitAt? dashes cs
  let (body, cs) ← splitAt? endMarker (cs.dropWhile isGap)
  let (endLabel, _) ← splitAt? dashes cs
  return ⟨beginLabel, body, endLabel⟩

/-- Headers and data of a body. -/
def splitBody (body : List Char) : List Char × List Char :=
  match splitAt? ['\n', '\n'] body with
  | some parts => parts
  | none =>
    match splitAt? ['\r', '\n', '\r', '\n'] body with
    | some parts => parts
    | none => ([], body)

/-- The lines of a text.  A line ends with a line feed, before which a carriage return is
dropped, and the last one may go without. -/
def lines (cs : List Char) : List (List Char) :=
  let cuts := Text.cut '\n' cs
  let ended := cuts.dropLast.map fun l => if l.getLast? = some '\r' then l.dropLast else l
  match cuts.getLast? with
  | some last => if last.isEmpty then ended else ended ++ [last]
  | none => ended

/-- Whether a line is a header: a name and a value with a colon between them. -/
def isHeader (line : List Char) : Bool :=
  line.contains ':'

/-- The data without line breaks and other blanks. -/
def compact (data : List Char) : List Char :=
  data.filter (!Text.isBlank ·)

/-- A block: what it holds and the octets. -/
structure Block where
  label : String
  octets : List UInt8
  deriving DecidableEq, Repr

/-- The block of a frame. -/
def Frame.block (f : Frame) : Except Fault Block := do
  if f.beginLabel.isEmpty then throw .noBeginLabel
  if f.endLabel.isEmpty then throw .noEndLabel
  if f.beginLabel ≠ f.endLabel then
    throw (.labelsDiffer (String.ofList f.beginLabel) (String.ofList f.endLabel))
  let (headers, data) := splitBody f.body
  let octets ← (Base64.decode .standard .canonical (Text.Utf8.encode (compact data))).mapError .data
  match (lines headers).find? (!isHeader ·) with
  | some line => throw (.header (String.ofList line))
  | none => return ⟨String.ofList f.beginLabel, octets⟩

/-- The first block of a text. -/
def parse (text : String) : Except Fault Block :=
  match frame? text.toList with
  | none => .error .framing
  | some f => f.block

end Pem
end TokenTrust
