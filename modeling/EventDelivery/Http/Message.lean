import EventDelivery.Http.Response
import EventDelivery.Text.Base64
import EventDelivery.Url.Parse
/-!
# Requests as they are sent

From options to what goes over the wire, and everything that can keep a request from being built.
-/

namespace EventDelivery

/-- Why a request does not exist. -/
inductive RequestFault where
  | url (text : String) (fault : UrlFault)
  | method (name : String)
deriving DecidableEq

def RequestFault.message : RequestFault → String
  | .url text fault => "invalid url `" ++ text ++ "`: " ++ fault.message
  | .method name => "invalid method `" ++ name ++ "`"

/-- Why a URL cannot be asked over HTTP. -/
inductive TargetFault where
  /-- It has no host, or another scheme. -/
  | scheme
  /-- Its host cannot be written in a request. -/
  | host
deriving DecidableEq

/-- Why a request has no response. -/
inductive SendFault where
  /-- The name of a header cannot be sent. -/
  | headerName
  /-- The value of a header cannot be sent. -/
  | headerValue
  | target (url : String) (fault : TargetFault)
  | unreached (url : String)
  | unanswered (url : String)
deriving DecidableEq

namespace SendFault

def message : SendFault → String
  | .headerName | .headerValue => "builder error"
  | .target url _ => "builder error for url (" ++ url ++ ")"
  | .unreached url | .unanswered url => "error sending request for url (" ++ url ++ ")"

/-- The causes behind the sentence, each behind the one before. -/
def causes : SendFault → List String
  | .headerName => ["invalid HTTP header name"]
  | .headerValue => ["failed to parse header value"]
  | .target _ .scheme => ["URL scheme is not allowed"]
  | .target _ .host => ["Parsed Url is not a valid Uri"]
  | .unreached _ =>
    ["client error (Connect)", "tcp connect error", "Network is unreachable (os error 101)"]
  | .unanswered _ => ["client error (SendRequest)", "connection closed before message completed"]

end SendFault

/-- A character of methods and header names. -/
def isTokenChar (c : Char) : Bool :=
  Text.isLetterOrDigit c || "!#$%&'*+-.^_\x60|~".toList.contains c

/-- A nonempty text of token characters. -/
def isToken (s : String) : Bool := !s.isEmpty && s.toList.all isTokenChar

/-- Whether a text can be the value of a header. -/
def isHeaderValue (s : String) : Bool :=
  s.toList.all fun c => c == '\t' || (0x20 ≤ c.toNat && c.toNat ≠ 0x7f)

/-- What goes over the wire. -/
structure Message where
  method : String
  /-- The URL that is asked, without fragment, user name and password. -/
  target : String
  /-- Header lines in the order in which they are added. -/
  headers : List (String × List UInt8)
  body : String
deriving DecidableEq

/-- A request that is ready to be sent. Its record and its message are made of it apart. -/
structure PreparedRequest where
  method : String
  headers : Keyed String
  body : Option String
  /-- The options of all layers. -/
  options : RequestOptions
  /-- The URL with the search parameters. -/
  url : Url

namespace PreparedRequest

/-- Prepares a request from the options of all layers. -/
def prepare (options : RequestOptions) (url : String) : Except RequestFault PreparedRequest :=
  match Url.parse url with
  | .error fault => .error (.url url fault)
  | .ok parsed =>
    let target := parsed.appendPairs options.searchParams.entries
    let method := Text.upper (options.method.getD "GET")
    if !isToken method then .error (.method method)
    else
      let headers :=
        match options.json, options.headers.get? "content-type" with
        | some _, none => options.headers.insert "content-type" "application/json"
        | _, _ => options.headers
      let body :=
        match options.json with
        | some json => some json.compact
        | none => options.body
      .ok { method, headers, body, options, url := target }

/-- What is kept of a request for its response. -/
def record (prepared : PreparedRequest) : RequestRecord where
  method := prepared.method
  url := prepared.url.toText
  headers := prepared.headers
  body := prepared.body

/-- Whether the URL has a host that is not empty. -/
def hasHost (prepared : PreparedRequest) : Bool :=
  match prepared.url.host with
  | none | some (.name "") => false
  | some _ => true

/-- Whether the host can be asked: names with quotes or braces cannot. -/
def hasPlainHost (prepared : PreparedRequest) : Bool :=
  match prepared.url.host with
  | some (.name name) => !name.toList.any fun c => "\"\x60\x7b\x7d".toList.contains c
  | _ => true

/-- User name and password of the URL in plain text, when it has any. -/
def urlUser? (url : Url) : Option (String × Option String) := do
  let plain (s : String) : Option String :=
    (Text.decodeUtf8? (Percent.decode s.toList)).map String.ofList
  let username ← plain url.username
  let password := url.password.bind plain
  if username.isEmpty ∧ password.isNone then none else some (username, password)

/-- The URL that is asked; user name and password move into a header where they can be read. -/
def askedUrl (prepared : PreparedRequest) : Url :=
  match urlUser? prepared.url with
  | some _ => prepared.url.withoutUser
  | none => prepared.url

/-- What keeps a header from being sent. -/
def headerFault? (header : String × String) : Option SendFault :=
  if !isToken header.1 then some .headerName
  else if !isHeaderValue header.2 then some .headerValue
  else none

/-- What keeps the request from being sent. -/
def fault? (prepared : PreparedRequest) : Option SendFault :=
  let asked := prepared.askedUrl.toText
  if !prepared.hasHost then some (.target asked .scheme)
  else
    match prepared.headers.entries.findSome? headerFault? with
    | some fault => some fault
    | none =>
      if prepared.url.scheme ≠ "http" ∧ prepared.url.scheme ≠ "https" then
        some (.target asked .scheme)
      else if !prepared.hasPlainHost then some (.target asked .host)
      else none

def octets (s : String) : List UInt8 := s.toList.flatMap Text.utf8

/-- The header value of a user name and a password. -/
def basic (username : String) (password : Option String) : List UInt8 :=
  octets "Basic " ++
    octets (String.ofList (Text.base64 (octets (username ++ ":" ++ password.getD ""))))

end PreparedRequest

/-- A request while it is put together for the wire. -/
structure RequestDraft where
  method : String
  url : Url
  lines : List (String × List UInt8) := []
  body : Option String := none

namespace RequestDraft

/-- Adds a header line; its name is written in small letters. -/
def header (name value : String) (draft : RequestDraft) : RequestDraft :=
  { draft with lines := draft.lines ++ [(Text.lower name, PreparedRequest.octets value)] }

/-- Adds the line that says who asks. -/
def basicAuth (username : String) (password : Option String) (draft : RequestDraft) :
    RequestDraft :=
  { draft with
    lines := draft.lines ++ [("authorization", PreparedRequest.basic username password)] }

def setBody (body : String) (draft : RequestDraft) : RequestDraft :=
  { draft with body := some body }

/-- Starts a request; user name and password of the URL move into a line. -/
def start (method : String) (url : Url) : RequestDraft :=
  match PreparedRequest.urlUser? url with
  | some (username, password) =>
    basicAuth username password { method, url := url.withoutUser }
  | none => { method, url }

/-- What a request sends. A user that could not be moved into a line is not sent either. -/
def message (draft : RequestDraft) : Message :=
  { method := draft.method
    target := draft.url.withoutUser.withoutFragment.toText
    headers := draft.lines
    body := draft.body.getD "" }

end RequestDraft

namespace PreparedRequest

def draft (prepared : PreparedRequest) : RequestDraft :=
  let started := RequestDraft.start prepared.method prepared.url
  let headed := prepared.headers.entries.foldl
    (fun draft header => draft.header header.1 header.2) started
  let shown :=
    match prepared.options.username with
    | some username => headed.basicAuth username prepared.options.password
    | none => headed
  match prepared.body with
  | some body => shown.setBody body
  | none => shown

def message (prepared : PreparedRequest) : Message := prepared.draft.message

end PreparedRequest

end EventDelivery
