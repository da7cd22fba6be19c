/-
# Heads of responses

A response starts with a head: a line with the version and the status code, the header fields,
one on a line, and an empty line.  A line ends with a line feed, which may have a carriage
return in front of it.  Empty lines before the head do not count.

`Head.read?` takes a head from the front of what a server sent.  The standard phrase that a
server sends along with the code is checked for its characters and not kept.
-/
import TokenTrust.Text.Blank

namespace TokenTrust
namespace Http

/-! ## 1. Lines -/

/-- The octets up to the first end of a line, and what follows it.  A carriage return is part
of an end of a line or not there at all. -/
def line? : List UInt8 → Option (List UInt8 × List UInt8)
  | [] => none
  | 10 :: rest => some ([], rest)
  | 13 :: 10 :: rest => some ([], rest)
  | 13 :: _ => none
  | b :: rest => (line? rest).map fun (line, rest) => (b :: line, rest)

/-- A line takes at least the octet that ends it. -/
theorem line?_length {bs line rest : List UInt8} (h : line? bs = some (line, rest)) :
    rest.length < bs.length := by
  fun_induction line? bs generalizing line with
  | case1 => simp at h
  | case2 r =>
    simp only [Option.some.injEq, Prod.mk.injEq] at h
    simp only [← h.2, List.length_cons]; omega
  | case3 r =>
    simp only [Option.some.injEq, Prod.mk.injEq] at h
    simp only [← h.2, List.length_cons]; omega
  | case4 => simp at h
  | case5 b r _ _ _ ih =>
    obtain ⟨⟨l, r'⟩, h', e⟩ := Option.map_eq_some_iff.1 h
    simp only [Prod.mk.injEq] at e
    have := ih (e.2 ▸ h')
    simp; omega

/-- Octets as characters of the same numbers. -/
def characters (bs : List UInt8) : List Char :=
  bs.map fun b => Char.ofNat b.toNat

/-! ## 2. Header fields -/

/-- A header field. -/
structure Field where
  /-- The name in lower case. -/
  name : String
  /-- The value without blanks and tabs around it. -/
  value : String
  deriving DecidableEq, Repr

/-- Whether a character may stand in the name of a field. -/
def isNameChar (c : Char) : Bool :=
  c.isAlphanum || "!#$%&'*+-.^_`|~".toList.contains c

/-- Whether a character may stand in the value of a field: no control but the tabulator. -/
def isValueChar (c : Char) : Bool :=
  c == '\t' || (0x20 ≤ c.toNat && c.toNat != 0x7F)

/-- A text without blanks and tabs around it. -/
def trimmed (cs : List Char) : List Char :=
  Text.strip (fun c => c == ' ' || c == '\t') cs

/-- The field of a line. -/
def Field.ofLine? (line : List Char) : Option Field :=
  let name := line.takeWhile (· != ':')
  match line.dropWhile (· != ':') with
  | _ :: value =>
    if !name.isEmpty && name.all isNameChar && value.all isValueChar then
      some ⟨String.ofList (name.map Char.toLower), String.ofList (trimmed value)⟩
    else none
  | [] => none

/-- How many fields a head may have. -/
def maxFields : Nat := 100

/-- At most `room` fields and the empty line after them, and what follows. -/
def fields? : Nat → List UInt8 → Option (List Field × List UInt8)
  | 0, bs =>
    match line? bs with
    | some ([], rest) => some ([], rest)
    | _ => none
  | room + 1, bs =>
    match line? bs with
    | none => none
    | some ([], rest) => some ([], rest)
    | some (line, rest) => do
      let field ← Field.ofLine? (characters line)
      let (fields, rest) ← fields? room rest
      return (field :: fields, rest)

theorem fields?_length {room : Nat} {bs rest : List UInt8} {fields : List Field}
    (h : fields? room bs = some (fields, rest)) : rest.length < bs.length := by
  induction room generalizing bs fields with
  | zero =>
    unfold fields? at h
    split at h
    · next r hl => simp at h; exact h.2 ▸ line?_length hl
    · simp at h
  | succ room ih =>
    unfold fields? at h
    split at h
    · simp at h
    · next r hl => simp at h; exact h.2 ▸ line?_length hl
    · next line r _ hl =>
      simp only [Option.bind_eq_bind, Option.bind_eq_some_iff] at h
      obtain ⟨_, _, ⟨_, r'⟩, h', e⟩ := h
      simp only [Option.pure_def, Option.some.injEq, Prod.mk.injEq] at e
      have := ih (e.2 ▸ h')
      have := line?_length hl
      omega

/-! ## 3. Heads -/

/-- A head. -/
structure Head where
  /-- The second number of the version, which is 1.0 or 1.1. -/
  minor : Nat
  status : Nat
  fields : List Field
  deriving DecidableEq, Repr

namespace Head

/-- The values of the fields with a name, in order. -/
def values (h : Head) (name : String) : List String :=
  (h.fields.filter (·.name == name)).map (·.value)

/-- The code of three digits, which is at least 100. -/
def status? (a b c : Char) : Option Nat :=
  let status := 100 * (a.toNat - 48) + 10 * (b.toNat - 48) + (c.toNat - 48)
  if a.isDigit && b.isDigit && c.isDigit && 100 ≤ status then some status else none

/-- Version and code of a first line.  A phrase after the code may be missing. -/
def ofLine? (fields : List Field) : List Char → Option Head
  | 'H' :: 'T' :: 'T' :: 'P' :: '/' :: '1' :: '.' :: v :: ' ' :: a :: b :: c :: phrase => do
    let status ← status? a b c
    let isPhrase := match phrase with
      | [] => true
      | c :: cs => c == ' ' && cs.all isValueChar
    if (v == '0' || v == '1') && isPhrase then some ⟨v.toNat - 48, status, fields⟩ else none
  | _ => none

/-- A head, and what follows it. -/
def read? (bs : List UInt8) : Option (Head × List UInt8) :=
  match _h : line? bs with
  | none => none
  | some ([], rest) => read? rest
  | some (line, rest) => do
    let (fields, rest) ← fields? maxFields rest
    let head ← ofLine? fields (characters line)
    return (head, rest)
  termination_by bs.length
  decreasing_by exact line?_length _h

theorem read?_length {bs rest : List UInt8} {head : Head} (h : read? bs = some (head, rest)) :
    rest.length < bs.length := by
  fun_induction read? bs with
  | case1 => simp at h
  | case2 bs r hl ih => have := ih h; have := line?_length hl; omega
  | case3 bs line r _ hl =>
    simp only [Option.bind_eq_bind, Option.bind_eq_some_iff] at h
    obtain ⟨⟨_, r'⟩, hf, _, _, e⟩ := h
    simp only [Option.pure_def, Option.some.injEq, Prod.mk.injEq] at e
    have := fields?_length (e.2 ▸ hf)
    have := line?_length hl
    omega

end Head
end Http
end TokenTrust
