import EventDelivery.Error
/-!
# Results of lookups and hooks

The choices of a dynamic field, and what a hook saves or reports.
-/

namespace EventDelivery

/-- The platforms that actions are made for. -/
inductive Platform where
  | cloud
  | web
deriving DecidableEq, Inhabited

namespace Platform

def names : List (String × Platform) := [("cloud", .cloud), ("web", .web)]

def name : Platform → String
  | .cloud => "cloud"
  | .web => "web"

end Platform

/-- A choice of a dynamic field. -/
structure DynamicFieldItem where
  label : String
  value : String
deriving DecidableEq

namespace DynamicFieldItem

/-- The record that choices are given as. -/
def record : Record := ⟨"DynamicFieldItem", ["label", "value"]⟩

def ofJson : Json → Decoded DynamicFieldItem :=
  record.decode fun source =>
    DynamicFieldItem.mk
    <$> record.required source "label" Wire.text
    <*> record.required source "value" Wire.text

def toJson (item : DynamicFieldItem) : Json :=
  .ofMembers [("label", .str item.label), ("value", .str item.value)]

end DynamicFieldItem

/-- A message with a code, in the place of a result. -/
structure Problem where
  message : String
  code : String
deriving DecidableEq

namespace Problem

/-- Decodes a problem that is called `title` in messages. -/
def ofJson (title : String) : Json → Decoded Problem :=
  let record : Record := ⟨title, ["message", "code"]⟩
  record.decode fun source =>
    Problem.mk
    <$> record.required source "message" Wire.text
    <*> record.required source "code" Wire.text

def toJson (problem : Problem) : Json :=
  .ofMembers [("message", .str problem.message), ("code", .str problem.code)]

end Problem

/-- The choices of a dynamic field, page by page. -/
structure DynamicFieldResponse where
  choices : List DynamicFieldItem
  /-- The page that follows, empty when none does. -/
  nextPage : String := ""
  error : Option Problem := none
deriving DecidableEq

namespace DynamicFieldResponse

/-- The response for a field that nothing is known of. -/
def unknownField (name : String) : DynamicFieldResponse :=
  { choices := []
    error := some ⟨"No dynamic field named " ++ name ++ " found.", "404"⟩ }

/-- The record that choices of a field are given as. -/
def record : Record := ⟨"DynamicFieldResponse", ["choices", "nextPage", "error"]⟩

def ofJson : Json → Decoded DynamicFieldResponse :=
  record.decode fun source =>
    DynamicFieldResponse.mk
    <$> record.required source "choices" (Wire.list DynamicFieldItem.ofJson)
    <*> record.optional source "nextPage" "" Wire.text
    <*> record.optional source "error" none (Wire.nullable (Problem.ofJson "DynamicFieldError"))

/-- The choices of a field as a value. -/
def toJson (response : DynamicFieldResponse) : Json :=
  .ofMembers <|
    [("choices", .arr (response.choices.map DynamicFieldItem.toJson)),
      ("nextPage", .str response.nextPage)] ++
    Record.present "error" (response.error.map Problem.toJson)

end DynamicFieldResponse

/-- What a hook saves. -/
structure HookResponse where
  successMessage : Option String
  savedData : Json
deriving DecidableEq

namespace HookResponse

/-- The record that saved data are given as. -/
def record : Record := ⟨"ActionHookResponse", ["successMessage", "savedData"]⟩

def ofJson : Json → Decoded HookResponse :=
  record.decode fun source =>
    HookResponse.mk
    <$> record.optional source "successMessage" none (Wire.nullable Wire.text)
    <*> record.required source "savedData" Wire.any

def toJson (response : HookResponse) : Json :=
  .ofMembers <|
    Record.present "successMessage" (response.successMessage.map .str) ++
    [("savedData", response.savedData)]

end HookResponse

/-- The result of a hook; the two kinds differ by their members alone. -/
inductive HookResult where
  | success (response : HookResponse)
  | failure (problem : Problem)
deriving DecidableEq

namespace HookResult

/-- Decodes a result: saved data if possible, otherwise a problem. -/
def ofJson (value : Json) : Decoded HookResult :=
  match HookResponse.ofJson value with
  | .ok response => .ok (.success response)
  | .error _ =>
    match Problem.ofJson "ActionHookError" value with
    | .ok problem => .ok (.failure problem)
    | .error _ => .error (.noAlternative "ActionHookResult")

def toJson : HookResult → Json
  | .success response => response.toJson
  | .failure problem => problem.toJson

end HookResult

/-- The description of a value that a hook saves. -/
structure HookOutputType where
  label : String
  description : String
  type : String
  required : Bool
deriving DecidableEq

namespace HookOutputType

/-- The record that descriptions are given as. -/
def record : Record := ⟨"HookOutputType", ["label", "description", "type", "required"]⟩

def ofJson : Json → Decoded HookOutputType :=
  record.decode fun source =>
    HookOutputType.mk
    <$> record.required source "label" Wire.text
    <*> record.required source "description" Wire.text
    <*> record.required source "type" Wire.text
    <*> record.required source "required" Wire.flag

def toJson (output : HookOutputType) : Json :=
  .ofMembers [("label", .str output.label), ("description", .str output.description),
    ("type", .str output.type), ("required", .bool output.required)]

end HookOutputType

end EventDelivery
