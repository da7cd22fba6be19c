/-
# Documents over HTTP

How a document is fetched: a request, the requests that follow it if the answer sends the client
elsewhere, and what the last answer means.  The network is not here.  `Client.prepare` says what is
sent first, `Reply` what may come back, and `Client.follow` how the exchange ends; `Client.fetch` is
the three of them in a row.

Whether an answer sends the client elsewhere is up to the transport (`Redirection`).  It goes on a
limited number of times.

Two things are kept out of what the caller is told:

* the secrets of the address.  The failure carries the redacted URL, and where the wording of
  the transport shows the URL, user name and password have moved to a header;
* the text of a page that reports an error.  No more than `errorBodyLimit` octets of it are
  read, and `preview` shows the start of them in printable ASCII.
-/
import TokenTrust.Base64
import TokenTrust.Error
import TokenTrust.Http.Response
import TokenTrust.KeySource
import TokenTrust.Log
import TokenTrust.Time.Duration
import TokenTrust.Url.Percent

namespace TokenTrust
namespace Http

/-! ## 1. Requests -/

/-- What a client is set up with. -/
structure Client where
  /-- The name it gives itself, if any. -/
  agent : Option String := none
  /-- How long it waits for the whole exchange.  `none` is forever. -/
  timeout : Option Duration := some (Duration.ofSeconds 10)
  /-- How many times it goes on to where it is sent. -/
  redirects : Nat := 10
  deriving DecidableEq, Repr

/-- A request as it is sent. -/
structure Request where
  /-- The URL without what goes into the authorization header. -/
  url : Url
  /-- The value of `x-zone_uuid`, the tenant whose keys are asked for. -/
  tenant : Option (List UInt8)
  authorization : Option String
  agent : Option String
  deriving DecidableEq, Repr

namespace Request

/-- The media type that is asked for. -/
def accept : String := "application/json"

/-- Path and query. -/
def target (r : Request) : String :=
  let path := match r.url.path.text with
    | "" => "/"
    | p => p
  match r.url.query with
  | none => path
  | some q => path ++ "?" ++ q

/-- The first line. -/
def line (r : Request) : String := "GET " ++ r.target ++ " HTTP/1.1"

end Request

/-- User name and password in a URL, decoded.  A name that is not UTF-8 spoils both; a password
that is not is left out. -/
def credentials? (u : Url) : Option (String × Option String) := do
  let a ← u.authority
  let decoded? (s : String) : Option String :=
    Text.Utf8.text? (Url.percentDecode (Text.Utf8.bytes s))
  let username ← decoded? a.username
  let password := a.password.bind decoded?
  if username.isEmpty && password.isNone then none else return (username, password)

/-- The authorization header for a user name and a password. -/
def basic (username : String) (password : Option String) : String :=
  let octets := Text.Utf8.bytes (username ++ ":" ++ password.getD "")
  let symbols := Base64.padded (Base64.encode .standard octets)
  "Basic " ++ String.ofList (symbols.map fun b => Char.ofNat b.toNat)

/-- The request for a document.  `none` stands for a tenant that no header can hold. -/
def Client.prepare (c : Client) (source : KeySource) : Option Request :=
  let tenant := source.tenant.map Text.Utf8.bytes
  if (characters (tenant.getD [])).all isValueChar then
    some <| match credentials? source.url with
      | some (username, password) =>
        ⟨source.url.withoutUserinfo, tenant, some (basic username password), c.agent⟩
      | none => ⟨source.url, tenant, none, c.agent⟩
  else none

/-! ## 2. Replies -/

/-- How the other side may react. -/
inductive Reply where
  /-- Nobody listens there, so nothing was sent. -/
  | refused
  /-- The request was taken and no answer ever comes. -/
  | silence
  /-- What is sent before the connection is closed. -/
  | octets (octets : List UInt8)
  deriving DecidableEq, Repr

/-! ## 3. Reports of an error -/

/-- How much is read of a page that reports an error. -/
def errorBodyLimit : Nat := 4096

/-- How much is shown of it. -/
def previewLimit : Nat := 128

/-- An octet as a preview shows it. -/
def previewOctet (b : UInt8) : List Char :=
  if b = 10 then ['\\', 'n']
  else if b = 13 then ['\\', 'r']
  else if b = 9 then ['\\', 't']
  else if 32 ≤ b ∧ b < 127 then [Char.ofNat b.toNat]
  else ['.']

/-- The start of a page in printable ASCII, with three dots if there is more. -/
def preview (body : List UInt8) : String :=
  let shown := (body.take previewLimit).flatMap previewOctet
  let more := if previewLimit < body.length then ['.', '.', '.'] else []
  String.ofList (shown ++ more)

/-- What is read of a page that reports an error.  Where the page breaks off does not matter
beyond the limit. -/
def Response.errorBody (r : Response) : Except Error (List UInt8) :=
  let body := r.body.take errorBodyLimit
  if r.isCut ∧ body.length < errorBodyLimit then
    .error (.crypto "response body read error: request or response body error")
  else .ok body

/-- A page that reports an error in one line. -/
def Response.report (r : Response) : String :=
  match r.errorBody with
  | .error e => e.message
  | .ok body =>
    let shown := preview body
    "status " ++ statusText r.status ++ " body_read_len " ++ toString body.length ++
      if shown.isEmpty then "" else " body_preview " ++ shown

/-! ## 4. Outcomes -/

/-- The wording for an exchange that got no answer. -/
def unanswered (r : Request) : String := "error sending request for url (" ++ r.url.text ++ ")"

/-- A client speaks HTTP only, with or without encryption. -/
def isSpoken (scheme : String) : Bool := scheme == "http" || scheme == "https"

/-- The document in a response, or what is wrong with it. -/
def Response.document (r : Response) : Except String (List UInt8) :=
  if !isSuccess r.status then .error r.report
  else if r.isCut then .error "error decoding response body"
  else .ok r.body

/-! ## 5. Exchanges -/

/-- How an exchange ends. -/
inductive Ending where
  | response (r : Response)
  /-- There is no response, for a reason. -/
  | broken (reason : String)
  /-- A client without a time limit waits forever. -/
  | endless
  deriving DecidableEq, Repr

/-- What the caller gets in the end.  `none`: nothing ever. -/
def Ending.document? : Ending → Option (Except String (List UInt8))
  | .response r => some r.document
  | .broken reason => some (.error reason)
  | .endless => none

/-- What the transport makes of answers that send the client elsewhere. -/
structure Redirection where
  /-- The request to go on with when a request was answered with a head.  `none`: the response is
  what the caller gets. -/
  next? : Request → Head → Option Request
  /-- The wording for a request whose answer sends the client on once too often. -/
  exhausted : Request → String

/-- What comes of a reply to a request: another request, or the end of the exchange. -/
def Client.react (c : Client) (redirection : Redirection) (request : Request) :
    Reply → Request ⊕ Ending
  | .refused => .inr (.broken (unanswered request))
  | .silence => .inr (if c.timeout.isSome then .broken (unanswered request) else .endless)
  | .octets octets =>
    match Head.final? octets with
    | none => .inr (.broken (unanswered request))
    | some (head, rest) =>
      match head.response? rest with
      | none => .inr (.broken (unanswered request))
      | some r =>
        match redirection.next? request head with
        | some next => .inl next
        | none => .inr (.response r)

/-- A request and those that follow it, as many as there is room for: what is sent, and how it
ends. -/
def Client.follow (c : Client) (redirection : Redirection) (serve : Request → Reply)
    (room : Nat) (request : Request) : List Request × Ending :=
  let reply := serve request
  let sent := if reply = .refused then [] else [request]
  match c.react redirection request reply with
  | .inr ending => (sent, ending)
  | .inl next =>
    match room with
    | 0 => (sent, .broken (redirection.exhausted request))
    | room + 1 =>
      let (others, ending) := c.follow redirection serve room next
      (sent ++ others, ending)

/-- A fetch as seen from outside. -/
structure Fetch where
  /-- What was sent, in order. -/
  requests : List Request
  /-- What the caller gets.  `none`: the fetch does not end. -/
  result : Option (Except Error (List UInt8))
  log : List LogLine

/-- Fetches the document of a source from servers that react to a request in a given way. -/
def Client.fetch (c : Client) (redirection : Redirection) (source : KeySource)
    (serve : Request → Reply) : Fetch :=
  let address := source.url.redacted.text
  let failure (reason : String) : Error := .keyRetrieval address reason
  let log := [LogLine.debug ("fetching " ++ address)]
  match c.prepare source with
  | none => ⟨[], some (.error (failure "builder error")), log⟩
  | some request =>
    if !isSpoken request.url.scheme then
      ⟨[], some (.error (failure ("builder error for url (" ++ request.url.text ++ ")"))), log⟩
    else
      let (sent, ending) := c.follow redirection serve c.redirects request
      ⟨sent, ending.document?.map (·.mapError failure), log⟩

end Http
end TokenTrust
