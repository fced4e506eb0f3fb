import EventDelivery.Assoc
import EventDelivery.Url.Host
/-!
# URLs

The parts of a URL, each already written as it stands in the text, and the text made of them.
-/

namespace EventDelivery

/-- The path of a URL. -/
inductive UrlPath where
  /-- Text that is not divided. -/
  | whole (text : String)
  /-- Segments, each after a slash. -/
  | segments (parts : List String)
deriving DecidableEq

def UrlPath.toText : UrlPath → String
  | .whole text => text
  | .segments parts => String.join (parts.map fun part => "/" ++ part)

/-- A URL in its parts. -/
structure Url where
  /-- The scheme in small letters. -/
  scheme : String
  username : String := ""
  password : Option String := none
  /-- The host, when the URL has a place for one. -/
  host : Option Host := none
  /-- The port, when it is not the usual one of the scheme. -/
  port : Option UInt16 := none
  path : UrlPath
  query : Option String := none
  fragment : Option String := none
deriving DecidableEq

namespace Url

/-- The schemes whose URLs are written the way of the web. -/
def isSpecial (scheme : String) : Bool :=
  ["http", "https", "ws", "wss", "ftp", "file"].contains scheme

def usualPort (scheme : String) : Option Nat :=
  Assoc.get? scheme [("http", 80), ("https", 443), ("ws", 80), ("wss", 443), ("ftp", 21)]

/-- User name and password before the host. -/
def userText (url : Url) : String :=
  match url.username, url.password with
  | "", none => ""
  | username, none => username ++ "@"
  | username, some password => username ++ ":" ++ password ++ "@"

/-- What stands between the scheme and the path. -/
def authorityText (url : Url) : String :=
  match url.host with
  | some host =>
    "//" ++ url.userText ++ host.toText ++
      (match url.port with
        | some port => ":" ++ toString port.toNat
        | none => "")
  | none =>
    match url.path with
    | .segments ("" :: _ :: _) => "/."
    | _ => ""

def toText (url : Url) : String :=
  url.scheme ++ ":" ++ url.authorityText ++ url.path.toText ++
    (match url.query with
      | some query => "?" ++ query
      | none => "") ++
    (match url.fragment with
      | some fragment => "#" ++ fragment
      | none => "")

def withoutFragment (url : Url) : Url := { url with fragment := none }

/-- The URL without user name and password. -/
def withoutUser (url : Url) : Url := { url with username := "", password := none }

/-- Adds form pairs to the query; without a pair nothing changes. -/
def appendPairs (url : Url) (pairs : List (String × String)) : Url :=
  if pairs.isEmpty then url
  else
    let added := String.ofList (['&'].intercalate (pairs.map Percent.formPair))
    let query :=
      match url.query with
      | none | some "" => added
      | some query => query ++ "&" ++ added
    { url with query := some query }

/-- The form pairs of the query. -/
def queryPairs (url : Url) : List (String × String) :=
  match url.query with
  | some query => Percent.readForm query.toList
  | none => []

end Url

end EventDelivery
