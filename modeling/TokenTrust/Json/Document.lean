/-
# Documents

Three ways to read a document with the pieces of `Json.Reader`:

* `value` reads any value, at most 127 lists and objects deep;
* `ignore` consumes a value that nobody asks for.  It checks the grammar but not the texts and
  the size of the numbers, and it has no limit of depth;
* `fields` reads a value that stands for a record: an object with known members, or a list with
  the fields in their order.

`parse` reads a whole document, which ends where its value ends.
-/
import TokenTrust.Json.Reader

namespace TokenTrust
namespace Json
namespace Reader

variable {α σ : Type}

/-! ## 1. Values -/

/-- A value, given how to go on after the bracket of a list and the brace of an object. -/
def valueBy (list object : Reader Value) : Reader Value := do
  match ← next with
  | none => throw .endInValue
  | some b =>
    if b == octet 'n' then do skip; word ['u', 'l', 'l']; return .null
    else if b == octet 't' then do skip; word ['r', 'u', 'e']; return .bool true
    else if b == octet 'f' then do skip; word ['a', 'l', 's', 'e']; return .bool false
    else if b == octet '-' then do skip; return .number (← number true)
    else if isDigit b then return .number (← number false)
    else if b == octet '"' then do skip; return .string (← string)
    else if b == octet '[' then list
    else if b == octet '{' then object
    else throw .expectedValue

/-- A value with at most `depth` lists and objects inside one another. -/
def value : Nat → Reader Value
  | 0 => valueBy (throw .tooDeep) (throw .tooDeep)
  | depth + 1 =>
    valueBy (do skip; return .array (← items (value depth)))
      (do skip; return .object (← members (value depth)))

/-- How deep lists and objects may be nested. -/
def depthLimit : Nat := 127

/-! ## 2. Values that nobody asks for -/

/-- Consumes an escape without looking at the character it stands for. -/
def ignoreEscape : Reader Unit := do
  match ← peek with
  | none => throw .endInString
  | some b =>
    skip
    if (shortEscape? b).isSome then return
    else if b == octet 'u' then do let _ ← hex4
    else throw .invalidEscape

/-- Consumes a string after its opening quote. -/
def ignoreString : Nat → Reader Unit
  | 0 => throw .endInString
  | bound + 1 => do
    modify (List.dropWhile isPlain)
    match ← peek with
    | none => throw .endInString
    | some b =>
      skip
      if b == octet '"' then return
      else if b == octet '\\' then do ignoreEscape; ignoreString bound
      else throw .controlCharacter

/-- Consumes the digits of an exponent after its mark. -/
def ignoreExponent : Reader Unit := do
  skip
  let sign ← peek
  if sign == some (octet '+') || sign == some (octet '-') then skip
  if (← digits).isEmpty then throw .invalidNumber

/-- Consumes a number after its sign. -/
def ignoreNumber : Reader Unit := do
  let ds ← digits
  if ds.isEmpty || (ds.head? == some (octet '0') && ds.length > 1) then throw .invalidNumber
  if (← peek) == some (octet '.') then
    skip
    if (← digits).isEmpty then throw .invalidNumber
  let b ← peek
  if b == some (octet 'e') || b == some (octet 'E') then ignoreExponent

/-- A list or an object that has been opened and not yet closed. -/
inductive Open where
  | list
  | object
  deriving DecidableEq, Repr

/-- The octet that closes it. -/
def Open.close : Open → UInt8
  | .list => octet ']'
  | .object => octet '}'

/-- Consumes one scalar, or opens one list or object. -/
def ignoreOne : Reader (Option Open) := do
  match ← next with
  | none => throw .endInValue
  | some b =>
    skip
    if b == octet 'n' then do word ['u', 'l', 'l']; return none
    else if b == octet 't' then do word ['r', 'u', 'e']; return none
    else if b == octet 'f' then do word ['a', 'l', 's', 'e']; return none
    else if b == octet '-' then do ignoreNumber; return none
    else if isDigit b then do
      modify (b :: ·)
      ignoreNumber
      return none
    else if b == octet '"' then do ignoreString ((← get).length + 1); return none
    else if b == octet '[' then return some .list
    else if b == octet '{' then return some .object
    else throw .expectedValue

/-- Closes what ends here, innermost first, and stops where another item or member begins.
`after` says that an item or a member of the innermost one has just been read. -/
def closeAll : Bool → List Open → Reader (List Open)
  | _, [] => return []
  | after, o :: outer => do
    match ← next with
    | none => throw (match o with | .list => .endInList | .object => .endInObject)
    | some b =>
      if after && b == octet ',' then do skip; return o :: outer
      else if b == o.close then do skip; closeAll true outer
      else if after then
        throw (match o with
          | .list => .expectedListCommaOrEnd
          | .object => .expectedObjectCommaOrEnd)
      else return o :: outer

/-- Consumes the name of a member and the colon after it. -/
def ignoreName : Reader Unit := do
  match ← next with
  | none => throw .endInObject
  | some b =>
    if b == octet '"' then do skip; ignoreString ((← get).length + 1)
    else throw .keyNotString
  colon

/-- Consumes values until everything in `opened` is closed. -/
def ignoreUntil : Nat → List Open → Reader Unit
  | 0, _ => throw .endInValue
  | bound + 1, opened => do
    let still ← match ← ignoreOne with
      | some o => closeAll false (o :: opened)
      | none => closeAll true opened
    match still with
    | [] => return
    | o :: outer =>
      if o = .object then ignoreName
      ignoreUntil bound (o :: outer)

/-- Consumes one value. -/
def ignore : Reader Unit := do
  ignoreUntil ((← get).length + 1) []

/-! ## 3. Values of a known shape -/

/-- What stands here, for the message that something else was expected. -/
def found : Reader Found := do
  match ← next with
  | none => throw .endInValue
  | some b =>
    if b == octet 'n' then do skip; word ['u', 'l', 'l']; return .null
    else if b == octet 't' then do skip; word ['r', 'u', 'e']; return .bool true
    else if b == octet 'f' then do skip; word ['a', 'l', 's', 'e']; return .bool false
    else if b == octet '-' then do skip; return .number (← number true)
    else if isDigit b then return .number (← number false)
    else if b == octet '"' then do skip; return .string (← string)
    else if b == octet '[' then return .sequence
    else if b == octet '{' then return .map
    else throw .expectedValue

/-- Fails, since something else than `expected` stands here. -/
def refuse (expected : String) : Reader α := do
  throw (.mismatch (← found) expected)

/-- A string and nothing else. -/
def stringOnly : Reader String := do
  match ← next with
  | none => throw .endInValue
  | some b => if b == octet '"' then do skip; string else refuse "a string"

/-- A string, or nothing for `null`. -/
def stringOrNull : Reader (Option String) := do
  if (← next) == some (octet 'n') then
    skip
    word ['u', 'l', 'l']
    return none
  else return some (← stringOnly)

/-- A list of values with at most `depth` lists and objects inside each. -/
def listOnly (depth : Nat) : Reader (List Value) := do
  match ← next with
  | none => throw .endInValue
  | some b => if b == octet '[' then do skip; items (value depth) else refuse "a sequence"

/-- The next field of a record that is written as a list, if the list goes on. -/
def field? (first : Bool) (item : Reader α) : Reader (Option α) := do
  if ← moreItems first then return some (← item) else return none

/-- A record: a list read by `ofList`, or an object whose members `ofMember` feeds into a
state from which `ofMembers` makes the record.  `expected` names the record. -/
def fields (expected : String) (ofList : Reader α) (start : σ) (ofMember : σ → String → Reader σ)
    (ofMembers : σ → Except Fault α) : Reader α := do
  match ← next with
  | none => throw .endInValue
  | some b =>
    if b == octet '[' then
      skip
      let a ← ofList
      endList
      return a
    else if b == octet '{' then
      skip
      let s ← foldMembers ofMember ((← get).length + 1) true start
      let a ← ofMembers s
      endObject
      return a
    else refuse expected

/-- Sets a field that has not been set before. -/
def once (name : String) (already : Option α) (item : Reader α) : Reader α := do
  if already.isSome then throw (.duplicateField name)
  colon
  item

/-- Consumes the value of a member that is no field. -/
def ignoreMember : Reader Unit := do
  colon
  ignore

/-! ## 4. Whole documents -/

/-- Runs a reader over a whole document. -/
def run (r : Reader α) (document : List UInt8) : Except Fault α := do
  let (a, rest) ← StateT.run r document
  if (rest.dropWhile isSpace).isEmpty then return a else throw .trailingCharacters

end Reader

/-- The value of a document. -/
def parse (document : List UInt8) : Except Fault Value :=
  (Reader.value Reader.depthLimit).run document

end Json
end TokenTrust
