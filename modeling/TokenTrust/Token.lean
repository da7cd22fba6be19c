/-
# Tokens

A compact token is three segments between dots: header, payload and signature, each in the
URL-safe form of base64.  Header and payload are JSON objects.  `Token.parse` decodes and
checks nothing else, so a token is a claim that somebody makes until a validator has accepted
it.

The signature covers the first two segments, octet for octet.  They are not kept apart from the
text: a token knows how many octets of its text are signed, and `signingInput` is that slice of it.
-/
import TokenTrust.Base64
import TokenTrust.Error
import TokenTrust.Json.Document
import TokenTrust.Text.Blank

namespace TokenTrust

/-! ## 1. Segments -/

namespace Token

/-- A segment of a token. -/
inductive Segment where
  | header
  | payload
  | signature
  deriving DecidableEq, Repr

def Segment.name : Segment → String
  | .header => "jwt header"
  | .payload => "jwt payload"
  | .signature => "jwt signature"

/-- Why a text is not a token. -/
inductive Fault where
  /-- Another number of segments than three. -/
  | segmentCount (found : Nat)
  /-- Nothing before the first or the second dot. -/
  | emptySegment
  | base64 (segment : Segment) (fault : Base64.Fault)
  | json (segment : Segment) (fault : Json.Fault)
  /-- JSON, but no object. -/
  | noObject (segment : Segment)
  deriving DecidableEq, Repr

/-- The wording of a fault. -/
def Fault.message : Fault → String
  | .segmentCount n => "jwt must consist of 3 segments separated by '.', found " ++ toString n
  | .emptySegment => "header and payload segments must not be empty"
  | .base64 s f => s.name ++ " is not valid base64url: " ++ f.message
  | .json s f => s.name ++ " is not valid json: " ++ f.message
  | .noObject s => s.name ++ " is not a json object"

/-- The error that a fault is reported as. -/
def Fault.error (f : Fault) : Error :=
  .malformedToken f.message

/-- The octets of a segment.  Padding at its end is accepted and dropped, however much it is. -/
def decodeSegment (segment : List Char) : Except Base64.Fault (List UInt8) :=
  Base64.decode .urlSafe .none (Text.Utf8.encode (Text.dropEnd (· == '=') segment))

/-- The object of a segment. -/
def decodeObject (name : Segment) (segment : List Char) : Except Fault Json.Members := do
  let octets ← (decodeSegment segment).mapError (.base64 name)
  match ← (Json.parse octets).mapError (.json name) with
  | .object members => return members
  | _ => throw (.noObject name)

/-- The three segments of a text. -/
def segments (cs : List Char) : Except Fault (List Char × List Char × List Char) :=
  match Text.cut '.' cs with
  | [header, payload, signature] =>
    if header.isEmpty || payload.isEmpty then .error .emptySegment
    else .ok (header, payload, signature)
  | pieces => .error (.segmentCount pieces.length)

end Token

/-! ## 2. Tokens -/

/-- A decoded token.  Nothing in it has been checked against anything. -/
structure Token where
  /-- The text as it came, without blanks around it. -/
  raw : String
  /-- How many octets of the text are signed: header and payload with the dot between them. -/
  signedLength : Nat
  header : Json.Members
  claims : Json.Members
  signature : List UInt8

namespace Token

/-- Decodes a text.  Of several faults the leftmost is reported. -/
def parse? (text : String) : Except Fault Token := do
  let raw := Text.trim text
  let (h, p, s) ← segments raw.toList
  let header ← decodeObject .header h
  let claims ← decodeObject .payload p
  let signature ← (decodeSegment s).mapError (.base64 .signature)
  let signedLength := (Text.Utf8.encode h).length + 1 + (Text.Utf8.encode p).length
  return ⟨raw, signedLength, header, claims, signature⟩

/-- Decodes a text, with the fault as an error. -/
def parse (text : String) : Except Error Token :=
  (parse? text).mapError Fault.error

/-- The octets that are signed. -/
def signingInput (t : Token) : List UInt8 :=
  (Text.Utf8.bytes t.raw).take t.signedLength

/-! ## 3. Header -/

/-- A header parameter that is a string. -/
def headerString? (t : Token) (name : String) : Option String :=
  (t.header.get? name).bind Json.Value.string?

def algorithm? (t : Token) : Option String := t.headerString? "alg"

def keyId? (t : Token) : Option String := t.headerString? "kid"

/-- The address of the keys, as the token names it. -/
def keySetUrl? (t : Token) : Option String := t.headerString? "jku"

/-! ## 4. Claims -/

def hasClaim (t : Token) (name : String) : Bool :=
  t.claims.has name

def claim? (t : Token) (name : String) : Option Json.Value :=
  t.claims.get? name

/-- A claim that is a string. -/
def claimString? (t : Token) (name : String) : Option String :=
  (t.claim? name).bind Json.Value.string?

/-- The strings that a claim lists: a string lists itself, and an array its strings. -/
def claimStrings (t : Token) (name : String) : List String :=
  match t.claim? name with
  | some v => v.strings
  | none => []

/-- A claim that is a date in whole seconds.  A fraction is dropped. -/
def date? (t : Token) (name : String) : Option Int :=
  ((t.claim? name).bind Json.Value.number?).bind Json.Number.whole?

def issuer? (t : Token) : Option String := t.claimString? "iss"

def subject? (t : Token) : Option String := t.claimString? "sub"

/-- The first occurrences of the elements of a list. -/
def distinct (xs : List String) : List String :=
  xs.foldl (fun seen x => if seen.contains x then seen else seen ++ [x]) []

/-- Whom the token is meant for, each once. -/
def audiences (t : Token) : List String :=
  distinct (t.claimStrings "aud")

def expiration? (t : Token) : Option Int := t.date? "exp"

def notBefore? (t : Token) : Option Int := t.date? "nbf"

def issuedAt? (t : Token) : Option Int := t.date? "iat"

/-- The client that the token was issued to. -/
def clientId? (t : Token) : Option String :=
  t.claimString? "cid" <|> t.claimString? "azp"

/-- The zone or tenant of the token. -/
def zoneId? (t : Token) : Option String :=
  t.claimString? "zid" <|> t.claimString? "zone_uuid" <|> t.claimString? "app_tid"

def scopes (t : Token) : List String := t.claimStrings "scope"

/-- The text of a token in diagnostics.  It never holds the raw text, which is a secret. -/
def debug (t : Token) : String :=
  Text.record "Token" [("header", t.header.debug), ("claims", t.claims.debug),
    ("signature_len", toString t.signature.length)]

end Token
end TokenTrust
