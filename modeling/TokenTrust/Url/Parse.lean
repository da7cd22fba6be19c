/-
# Reading URLs

A text is read from left to right: scheme, authority, path, query, fragment.  Blanks and
controls around it do not count, nor do tabs and line breaks anywhere in it.  The schemes with
special rules always have a host (`file` may leave it out), take a backslash for a slash, and
do not care how many slashes follow the scheme.

There is no base to resolve against, so a text without a scheme is no URL.
-/
import TokenTrust.Url.Basic

namespace TokenTrust
namespace Url

/-! ## 1. Cutting -/

/-- Whether a character ends an authority or a segment. -/
def isSlash (special : Bool) (c : Char) : Bool :=
  c == '/' || (special && c == '\\')

/-- Whether a character ends the part before query and fragment. -/
def isMark (c : Char) : Bool :=
  c == '?' || c == '#'

/-- Whether a character is a tab or ends a line. -/
def isBreak (c : Char) : Bool :=
  c == '\t' || c == '\n' || c == '\r'

/-- A text without tabs and line breaks. -/
def withoutBreaks (cs : List Char) : List Char :=
  cs.filter (!isBreak ·)

/-- A text without blanks and controls around it. -/
def trimmed (cs : List Char) : List Char :=
  Text.strip (fun c => c.toNat ≤ 0x20) cs

/-- A character that a scheme may hold after its first letter. -/
def isSchemeChar (c : Char) : Bool :=
  c.isAlphanum || c == '+' || c == '-' || c == '.'

/-- The scheme in lower case, and what follows its colon. -/
def scheme? (cs : List Char) : Option (String × List Char) :=
  match cs with
  | [] => none
  | c :: _ =>
    if !c.isAlpha then none
    else match cs.dropWhile isSchemeChar with
      | ':' :: rest => some (String.ofList ((cs.takeWhile isSchemeChar).map Char.toLower), rest)
      | _ => none

/-- Query and fragment, from the mark that starts them. -/
def readTail (special : Bool) (cs : List Char) : Option String × Option String :=
  let fragmentOf (cs : List Char) : Option String :=
    match cs.dropWhile (· != '#') with
    | [] => none
    | _ :: f => some (String.ofList (encode fragmentSet f))
  match cs with
  | '?' :: rest =>
    let set := if special then specialQuerySet else querySet
    (some (String.ofList (encode set (rest.takeWhile (· != '#')))), fragmentOf rest)
  | cs => (none, fragmentOf cs)

/-! ## 2. Segments -/

/-- A letter and a colon or a bar, as in `C:`. -/
def isDriveLetter (cs : List Char) : Bool :=
  match cs with
  | [c, m] => c.isAlpha && (m == ':' || m == '|')
  | _ => false

/-- A drive letter, or one with a backslash behind it. -/
def startsWithDriveLetter (cs : List Char) : Bool :=
  isDriveLetter (cs.take 2) && (cs.drop 2).head?.all (· == '\\')

/-- In a `file` path a tab or line break right behind a drive letter with a colon ends the
segment, if more of it follows.  The parts are the drive letter and the rest. -/
def splitAtDrive? (piece : List Char) : Option (List Char × List Char) :=
  let after := (piece.dropWhile (· != ':')).drop 1
  match withoutBreaks piece with
  | c :: ':' :: d :: rest =>
    if c.isAlpha ∧ after.head?.any isBreak then some ([c, ':'], d :: rest) else none
  | _ => none

/-- A segment that stands for the place above. -/
def isDoubleDot (s : List Char) : Bool :=
  ["..", "%2e%2e", "%2e.", ".%2e"].contains (String.ofList (s.map Char.toLower))

/-- A segment that stands for the place itself. -/
def isSingleDot (s : List Char) : Bool :=
  [".", "%2e"].contains (String.ofList (s.map Char.toLower))

/-- The segments before one that goes up.  A drive letter is never left. -/
def goUp (done : List (List Char)) : List (List Char) :=
  match done.getLast? with
  | none => []
  | some last => if startsWithDriveLetter last then done else done.dropLast

/-- The segments of a path, given those before.  The second part says whether one was a drive
letter at the start of a `file` path. -/
def readSegments (file : Bool) (done : List (List Char)) :
    List (List Char) → List (List Char) × Bool
  | [] => (done, false)
  | piece :: rest =>
    let s := encode pathSet (withoutBreaks piece)
    let final := if rest.isEmpty then [[]] else []
    let atStart := file ∧ done.isEmpty
    match if atStart then splitAtDrive? piece else none with
    | some (drive, more) => readSegments file (done ++ [drive, encode pathSet more]) rest
    | none =>
      if isDoubleDot s then readSegments file (goUp done ++ final) rest
      else if isSingleDot s then readSegments file (done ++ final) rest
      else if atStart ∧ isDriveLetter s then
        ((readSegments file (done ++ [s.take 1 ++ [':']]) rest).1, true)
      else readSegments file (done ++ [s]) rest

/-- A path without its leading slash. -/
def readPath (special file : Bool) (cs : List Char) : List (List Char) × Bool :=
  let slashed := if special then cs.map fun c => if c = '\\' then '/' else c else cs
  readSegments file [] (Text.cut '/' slashed)

/-- Segments as a path. -/
def pathOf (ss : List (List Char)) : Path :=
  .segments (ss.map String.ofList)

/-- A path after an authority.  It is empty only where the scheme is not special. -/
def readPathStart (special : Bool) (cs : List Char) : Path :=
  match cs with
  | [] => if special then .segments [""] else .segments []
  | c :: rest => pathOf (readPath special false (if isSlash special c then rest else cs)).1

/-- The path of a `file` URL: empty segments at its front do not count. -/
def filePath (ss : List (List Char)) : Path :=
  match ss.dropWhile (·.isEmpty) with
  | [] => .segments [""]
  | kept => pathOf kept

/-! ## 3. Authorities -/

/-- User name and password.  An empty password is none. -/
def readUserinfo (cs : List Char) : String × Option String :=
  let username := encode userinfoSet (cs.takeWhile (· != ':'))
  let password := (cs.dropWhile (· != ':')).drop 1
  (String.ofList username,
    if password.isEmpty then none else some (String.ofList (encode userinfoSet password)))

/-- Splits what stands before the path at the last `@`. -/
def splitUserinfo (cs : List Char) : Option (List Char) × List Char :=
  if cs.contains '@' then
    let reversed := cs.reverse
    (some ((reversed.dropWhile (· != '@')).drop 1).reverse, (reversed.takeWhile (· != '@')).reverse)
  else (none, cs)

/-- The host at the front, up to a colon outside brackets. -/
def spanHost : Bool → List Char → List Char × List Char
  | _, [] => ([], [])
  | inside, c :: cs =>
    if c = ':' ∧ !inside then ([], c :: cs)
    else
      let (host, rest) := spanHost (if c = '[' then true else if c = ']' then false else inside) cs
      (c :: host, rest)

/-- A port after its colon, and what follows its digits. -/
def readPort (implied : Option Nat) (cs : List Char) : Except Fault (Option Nat × List Char) :=
  let ds := cs.takeWhile Char.isDigit
  let rest := cs.dropWhile Char.isDigit
  let port := ds.foldl (fun n c => 10 * n + (c.toNat - 48)) 0
  if 65535 < port then .error .invalidPort
  else
    let ends := match rest with
      | [] => true
      | c :: _ => isSlash true c || isMark c
    if !ends then .error .invalidPort
    else .ok (if ds.isEmpty ∨ implied = some port then none else some port, rest)

/-- An authority after its two slashes, and what follows it. -/
def readAuthority (scheme : String) (cs : List Char) : Except Fault (Authority × List Char) := do
  let special := isSpecial scheme
  let ends (c : Char) : Bool := isSlash special c || isMark c
  let (userinfo, rest) := splitUserinfo (cs.takeWhile (!ends ·))
  let after := cs.dropWhile (!ends ·)
  if userinfo = some [] ∧ rest.isEmpty ∧ !after.isEmpty then throw .emptyHost
  let (username, password) := readUserinfo (userinfo.getD [])
  let (hostText, portText) := spanHost false rest
  if special ∧ hostText.isEmpty then throw .emptyHost
  let host ← if special then (Host.parse hostText).map some else Host.parsePlain hostText
  if host.isNone ∧ portText.head? = some ':' then throw .emptyHost
  let (port, rest) ← match portText with
    | ':' :: digits => readPort (impliedPort? scheme) (digits ++ after)
    | _ => pure (none, after)
  if host.isNone ∧ (username ≠ "" ∨ password.isSome) then throw .emptyHost
  return (⟨username, password, host, port⟩, rest)

/-! ## 4. Whole URLs -/

/-- The parts up to query and fragment, and these. -/
def splitTail (cs : List Char) : List Char × List Char :=
  (cs.takeWhile (!isMark ·), cs.dropWhile (!isMark ·))

/-- A URL with an authority. -/
def parseWithAuthority (scheme : String) (cs : List Char) : Except Fault Url := do
  let (authority, rest) ← readAuthority scheme cs
  let special := isSpecial scheme
  let (path, tail) := splitTail rest
  let (query, fragment) := readTail special tail
  return ⟨scheme, some authority, readPathStart special path, query, fragment⟩

/-- An authority without anything. -/
def noAuthority : Authority := ⟨"", none, none, none⟩

/-- A `file` URL after two slashes: a host, unless there is none, or it is the local one, or a
drive letter stands in its place. -/
def parseFileHost (cs : List Char) : Except Fault (Option Host × List (List Char) × Bool) := do
  let hostText := withoutBreaks (cs.takeWhile (!isSlash true ·))
  let rest := cs.dropWhile (!isSlash true ·)
  if isDriveLetter hostText then
    let (ss, _) := readPath true true cs
    return (none, ss, false)
  let host ← if hostText.isEmpty then pure none else (Host.parse hostText).map some
  match host with
  | none => let (ss, _) := readPath true true rest; return (none, ss, false)
  | some (.domain "localhost") => let (ss, _) := readPath true true rest; return (none, ss, false)
  | some host => let (ss, drive) := readPath true true (rest.drop 1); return (some host, ss, drive)

/-- What follows a slash at the front, tabs and line breaks before it aside. -/
def afterSlash? (cs : List Char) : Option (List Char) :=
  match cs.dropWhile isBreak with
  | [] => none
  | c :: rest => if isSlash true c then some rest else none

/-- A `file` URL after its scheme.  Tabs and line breaks are still in it, because they matter
next to a drive letter. -/
def parseFile (cs : List Char) : Except Fault Url := do
  let (path, tail) := splitTail cs
  let (query, fragment) := readTail true (withoutBreaks tail)
  let make (host : Option Host) (ss : List (List Char)) : Url :=
    ⟨"file", some { noAuthority with host := host }, filePath ss, query, fragment⟩
  match afterSlash? path with
  | none => return make none (readPath true true path).1
  | some rest =>
    match afterSlash? rest with
    | none => return make none (readPath true true rest).1
    | some rest =>
      let (host, ss, drive) ← parseFileHost rest
      return make (if drive then none else host) ss

/-- A URL without an authority, whose scheme is not special. -/
def parsePlain (scheme : String) (cs : List Char) : Url :=
  let (path, tail) := splitTail cs
  let (query, fragment) := readTail false tail
  match path with
  | '/' :: rest => ⟨scheme, none, pathOf (readPath false false rest).1, query, fragment⟩
  | _ => ⟨scheme, none, .plain (String.ofList (encode controlSet path)), query, fragment⟩

/-- The URL of a text. -/
def parse (s : String) : Except Fault Url :=
  let cs := trimmed s.toList
  match scheme? (withoutBreaks cs) with
  | none => .error .relative
  | some (scheme, rest) =>
    if scheme = "file" then parseFile ((cs.dropWhile (· != ':')).drop 1)
    else if isSpecial scheme then parseWithAuthority scheme (rest.dropWhile (isSlash true))
    else match rest with
      | '/' :: '/' :: authority => parseWithAuthority scheme authority
      | _ => .ok (parsePlain scheme rest)

end Url
end TokenTrust
