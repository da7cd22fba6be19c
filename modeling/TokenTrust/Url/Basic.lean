/-
# URLs

A URL in parts.  Each part is kept in the encoded form in which it is written, so equal parts
mean equal texts.  `Url.text` writes them down; the functions after it change one part and
leave the others alone.
-/
import TokenTrust.Url.Host

namespace TokenTrust

namespace Url

/-! ## 1. Parts -/

/-- What stands between `//` and the path.  An authority without a host is possible where the
scheme allows it. -/
structure Authority where
  username : String
  password : Option String
  host : Option Host
  /-- The port, unless it is the one the scheme implies. -/
  port : Option Nat
  deriving DecidableEq, Repr

inductive Path where
  /-- A path without structure, such as that of `mailto:`. -/
  | plain (text : String)
  /-- The segments after each slash.  No segment at all is the empty path. -/
  | segments (segments : List String)
  deriving DecidableEq, Repr

/-- The text of a path. -/
def Path.text : Path → String
  | .plain s => s
  | .segments ss => String.join (ss.map ("/" ++ ·))

end Url

/-- A URL. -/
structure Url where
  scheme : String
  authority : Option Url.Authority
  path : Url.Path
  query : Option String
  fragment : Option String
  deriving DecidableEq, Repr

namespace Url

/-! ## 2. Schemes -/

/-- Schemes with special rules, other than `file`, and the ports they imply. -/
def impliedPort? (scheme : String) : Option Nat :=
  if scheme = "http" ∨ scheme = "ws" then some 80
  else if scheme = "https" ∨ scheme = "wss" then some 443
  else if scheme = "ftp" then some 21
  else none

/-- Whether a scheme has special rules. -/
def isSpecial (scheme : String) : Bool :=
  scheme = "file" || (impliedPort? scheme).isSome

/-! ## 3. Text -/

/-- User name and password in front of the host. -/
def Authority.userinfo (a : Authority) : String :=
  let password := match a.password with
    | none => ""
    | some p => ":" ++ p
  let both := a.username ++ password
  if both.isEmpty then "" else both ++ "@"

/-- The text of an authority, without the slashes. -/
def Authority.text (a : Authority) : String :=
  let host := match a.host with
    | none => ""
    | some h => h.text
  let port := match a.port with
    | none => ""
    | some p => ":" ++ toString p
  a.userinfo ++ host ++ port

/-- What stands between the scheme and the path.  A path that starts with two slashes would be
read as an authority if there is none, so `/.` is put in front of it. -/
def beforePath (u : Url) : String :=
  match u.authority, u.path with
  | some a, _ => "//" ++ a.text
  | none, .segments ("" :: _ :: _) => "/."
  | none, _ => ""

/-- The text of a URL. -/
def text (u : Url) : String :=
  let query := match u.query with
    | none => ""
    | some q => "?" ++ q
  let fragment := match u.fragment with
    | none => ""
    | some f => "#" ++ f
  u.scheme ++ ":" ++ u.beforePath ++ u.path.text ++ query ++ fragment

/-- The host. -/
def host? (u : Url) : Option Host :=
  u.authority.bind (·.host)

/-- The text of the host. -/
def hostText? (u : Url) : Option String :=
  u.host?.map (·.text)

/-- The last segment of the path. -/
def lastSegment? (u : Url) : Option String :=
  match u.path with
  | .segments ss => ss.getLast?
  | .plain _ => none

/-! ## 4. Changes -/

/-- An opaque path that nothing follows loses the blanks at its end. -/
def settled (u : Url) : Url :=
  match u.path, u.query, u.fragment with
  | .plain s, none, none => { u with path := .plain (Text.trimEnd ' ' s) }
  | _, _, _ => u

/-- The URL without its query. -/
def withoutQuery (u : Url) : Url :=
  settled { u with query := none }

/-- The URL without its fragment. -/
def withoutFragment (u : Url) : Url :=
  settled { u with fragment := none }

/-- The URL without user name and password.  Where there is no host there are none. -/
def withoutUserinfo (u : Url) : Url :=
  { u with authority := u.authority.map fun a =>
      if a.host.isSome ∧ u.scheme ≠ "file" then { a with username := "", password := none } else a }

/-- The URL as it may be shown: without user name, password, query and fragment. -/
def redacted (u : Url) : Url :=
  u.withoutUserinfo.withoutQuery.withoutFragment

/-- One segment more.  It fills a path that is a single slash. -/
def pushSegment (ss : List String) (s : String) : List String :=
  if ss = [""] then [s] else ss ++ [s]

/-- The segments without an empty one at the end, a single slash excepted. -/
def dropFinalSlash (ss : List String) : List String :=
  if ss.length > 1 ∧ ss.getLast? = some "" then ss.dropLast else ss

/-- The URL of a place below this one, without query and fragment.  The segments are taken as
they are.  An opaque path has nothing below it. -/
def below? (u : Url) (segments : List String) : Option Url :=
  match u.path with
  | .plain _ => none
  | .segments ss =>
    some { u with
      path := .segments (segments.foldl pushSegment (dropFinalSlash ss))
      query := none
      fragment := none }

end Url
end TokenTrust
