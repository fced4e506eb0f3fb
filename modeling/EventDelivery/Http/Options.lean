import EventDelivery.Text.Characters
import EventDelivery.Wire.Record
/-!
# Request options

What one request is asked to be. Options are layered: what the upper layer leaves open is taken from
the lower one.
-/

namespace EventDelivery

/-- The options of a request. -/
structure RequestOptions where
  method : Option String := none
  headers : Keyed String := ∅
  /-- A body that is sent as JSON. -/
  json : Option Json := none
  /-- A body that is sent as it is, when there is no JSON one. -/
  body : Option String := none
  searchParams : Keyed String := ∅
  username : Option String := none
  password : Option String := none
  /-- The longest wait for the answer, in milliseconds. -/
  timeout : Option UInt64 := none
  /-- Whether an answer without success is an error; by default it is. -/
  throwHttpErrors : Option Bool := none
deriving DecidableEq

instance : Inhabited RequestOptions := ⟨{}⟩

namespace RequestOptions

def setMethod (method : String) (options : RequestOptions) : RequestOptions :=
  { options with method := some method }

/-- Sets a header; its name is written in small letters. -/
def setHeader (name value : String) (options : RequestOptions) : RequestOptions :=
  { options with headers := options.headers.insert (Text.lower name) value }

def setJson (json : Json) (options : RequestOptions) : RequestOptions :=
  { options with json := some json }

def setSearchParam (name value : String) (options : RequestOptions) : RequestOptions :=
  { options with searchParams := options.searchParams.insert name value }

/-- Sets whether an answer without success is an error. -/
def setThrow (throws : Bool) (options : RequestOptions) : RequestOptions :=
  { options with throwHttpErrors := some throws }

/-- Headers under names in small letters; of names that become the same the last one stays. -/
def lowerHeaders (headers : Keyed String) : List (String × String) :=
  headers.entries.map fun header => (Text.lower header.1, header.2)

/-- Layers `upper` over `lower`: field by field, headers and search parameters key by key. -/
def merge (lower upper : RequestOptions) : RequestOptions :=
  { method := upper.method.or lower.method
    headers := (Keyed.ofList (lowerHeaders lower.headers)).insertAll (lowerHeaders upper.headers)
    json := upper.json.or lower.json
    body := upper.body.or lower.body
    searchParams := lower.searchParams.union upper.searchParams
    username := upper.username.or lower.username
    password := upper.password.or lower.password
    timeout := upper.timeout.or lower.timeout
    throwHttpErrors := upper.throwHttpErrors.or lower.throwHttpErrors }

/-- The record that options are given as. -/
def record : Record :=
  ⟨"RequestOptions", ["method", "headers", "json", "body", "searchParams", "username", "password",
    "timeout", "throwHttpErrors"]⟩

def ofJson : Json → Decoded RequestOptions :=
  record.decode fun source =>
    RequestOptions.mk
    <$> record.optional source "method" none (Wire.nullable Wire.text)
    <*> record.optional source "headers" ∅ (Wire.keyed Wire.text)
    <*> record.optional source "json" none (Wire.nullable Wire.any)
    <*> record.optional source "body" none (Wire.nullable Wire.text)
    <*> record.optional source "searchParams" ∅ (Wire.keyed Wire.text)
    <*> record.optional source "username" none (Wire.nullable Wire.text)
    <*> record.optional source "password" none (Wire.nullable Wire.text)
    <*> record.optional source "timeout" none (Wire.nullable Wire.word64)
    <*> record.optional source "throwHttpErrors" none (Wire.nullable Wire.flag)

def textsJson (texts : Keyed String) : Json :=
  .obj (texts.entries.map fun entry => (entry.1, .str entry.2))

/-- Options as a value; what is left open is left out. -/
def toJson (options : RequestOptions) : Json :=
  .ofMembers <|
    Record.present "method" (options.method.map .str) ++
    (if options.headers.isEmpty then [] else [("headers", textsJson options.headers)]) ++
    Record.present "json" options.json ++
    Record.present "body" (options.body.map .str) ++
    (if options.searchParams.isEmpty then [] else
      [("searchParams", textsJson options.searchParams)]) ++
    Record.present "username" (options.username.map .str) ++
    Record.present "password" (options.password.map .str) ++
    Record.present "timeout" (options.timeout.map fun t => .ofNat t.toNat) ++
    Record.present "throwHttpErrors" (options.throwHttpErrors.map .bool)

end RequestOptions

end EventDelivery
