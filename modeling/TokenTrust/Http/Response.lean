/-
# Responses

What a client makes of the octets a server sent before it closed the connection.  Heads that
only announce another one are passed over.  The head that ends the exchange decides how far
the body reaches: not at all, a given number of octets, as many chunks as there are, or up to
the end.  A body that breaks off before that is `isCut`, and what arrived of it is kept.
-/
import TokenTrust.Http.Head
import TokenTrust.Http.Status
import TokenTrust.Text.CodePoints

namespace TokenTrust
namespace Http

/-- A response. -/
structure Response where
  status : Nat
  /-- The octets of the body that arrived. -/
  body : List UInt8
  /-- Whether the connection was closed before the whole body was there. -/
  isCut : Bool
  deriving DecidableEq, Repr

/-! ## 1. How far a body reaches -/

/-- How the end of a body is found. -/
inductive Framing where
  | sized (length : Nat)
  | chunked
  | untilClose
  deriving DecidableEq, Repr

/-- The greatest length that can be announced. -/
def maxLength : Nat := 0xFFFFFFFFFFFFFFFD

/-- The number of a text of decimal digits. -/
def decimal? (cs : List Char) : Option Nat :=
  if !cs.isEmpty && cs.all Char.isDigit then
    some (cs.foldl (fun n c => 10 * n + (c.toNat - 48)) 0)
  else none

/-- The length that the values of `content-length` announce.  It may be given more than once,
but always the same. -/
def announcedLength? (values : List String) : Option Nat :=
  match (values.flatMap fun v => Text.cut ',' v.toList).map fun cs => decimal? (trimmed cs) with
  | some n :: others => if others.all (· == some n) && n ≤ maxLength then some n else none
  | _ => none

/-- Whether chunks are the last of the encodings in a value of `transfer-encoding`. -/
def endsInChunked (value : String) : Bool :=
  value.toList.all (fun c => c == '\t' || (0x20 ≤ c.toNat && c.toNat < 0x7F)) &&
    match (Text.cut ',' value.toList).getLast? with
    | some cs => String.ofList ((trimmed cs).map Char.toLower) == "chunked"
    | none => false

/-- How the body after a head ends.  A head that says it in a way that does not count is
refused. -/
def Head.framing? (h : Head) : Option Framing :=
  if !mayHaveBody h.status then some (.sized 0)
  else match (h.values "transfer-encoding").getLast? with
    | some last =>
      if h.minor = 0 then none
      else some (if endsInChunked last then .chunked else .untilClose)
    | none =>
      match h.values "content-length" with
      | [] => some .untilClose
      | lengths => (announcedLength? lengths).map .sized

/-! ## 2. Chunks -/

/-- A line that ends with carriage return and line feed, and what follows it. -/
def chunkLine? : List UInt8 → Option (List UInt8 × List UInt8)
  | [] => none
  | 13 :: 10 :: rest => some ([], rest)
  | 13 :: _ => none
  | b :: rest => (chunkLine? rest).map fun (line, rest) => (b :: line, rest)

theorem chunkLine?_length {bs line rest : List UInt8} (h : chunkLine? bs = some (line, rest)) :
    rest.length < bs.length := by
  fun_induction chunkLine? bs generalizing line with
  | case1 => simp at h
  | case2 r =>
    simp only [Option.some.injEq, Prod.mk.injEq] at h
    simp only [← h.2, List.length_cons]; omega
  | case3 => simp at h
  | case4 b r _ _ ih =>
    obtain ⟨⟨l, r'⟩, h', e⟩ := Option.map_eq_some_iff.1 h
    simp only [Prod.mk.injEq] at e
    have := ih (e.2 ▸ h')
    simp; omega

/-- The size of a chunk in hexadecimal.  An extension may follow after a semicolon. -/
def chunkSize? (line : List Char) : Option Nat :=
  let isHex (c : Char) : Bool := (Text.hexDigit? c).isSome
  let size := Text.hexValue (line.takeWhile isHex)
  if (line.takeWhile isHex).isEmpty || 0xFFFFFFFFFFFFFFFF < size then none
  else match (line.dropWhile isHex).dropWhile (fun c => c == ' ' || c == '\t') with
    | [] => some size
    | c :: extension => if c == ';' && !extension.contains '\n' then some size else none

/-- Whether the fields after the last chunk are whole. -/
def trailerIsWhole (bs : List UInt8) : Bool :=
  match _h : chunkLine? bs with
  | none => false
  | some ([], _) => true
  | some (line, rest) => (Field.ofLine? (characters line)).isSome && trailerIsWhole rest
  termination_by bs.length
  decreasing_by exact chunkLine?_length _h

/-- The octets in chunks, and whether they are whole. -/
def unchunk (bs : List UInt8) : List UInt8 × Bool :=
  match _h : chunkLine? bs with
  | none => ([], false)
  | some (line, rest) =>
    match chunkSize? (characters line) with
    | none => ([], false)
    | some 0 => ([], trailerIsWhole rest)
    | some size =>
      match _h' : rest.drop size with
      | 13 :: 10 :: rest' =>
        let (octets, whole) := unchunk rest'
        (rest.take size ++ octets, whole)
      | _ => (rest.take size, false)
  termination_by bs.length
  decreasing_by
    have := chunkLine?_length _h
    have h' := congrArg List.length _h'
    simp only [List.length_drop, List.length_cons] at h'
    omega

/-! ## 3. Responses -/

/-- The response with a head and the octets after it. -/
def Framing.response (status : Nat) (octets : List UInt8) : Framing → Response
  | .sized n => ⟨status, octets.take n, decide (octets.length < n)⟩
  | .chunked => let (body, whole) := unchunk octets; ⟨status, body, !whole⟩
  | .untilClose => ⟨status, octets, false⟩

/-- The head that ends the exchange, and what follows it. -/
def Head.final? (octets : List UInt8) : Option (Head × List UInt8) :=
  match _h : Head.read? octets with
  | none => none
  | some (head, rest) => if isFinal head.status then some (head, rest) else final? rest
  termination_by octets.length
  decreasing_by exact Head.read?_length _h

/-- The response with a head, if that says how far the body reaches. -/
def Head.response? (head : Head) (rest : List UInt8) : Option Response :=
  head.framing?.map (Framing.response head.status rest)

end Http
end TokenTrust
