import TestScribe.Json.Printer
import TestScribe.Json.Reader
import TestScribe.Locate.FunctionRecord
/-!
# Located functions as JSON

A record is written as an object.  The return type is left out when there is
none; when a record is read, a return type that is missing or null is none.
-/

namespace TestScribe.Locate

open TestScribe.Json

/-- The member for a return type, if there is one. -/
def returnTypeMember (returnType : Option String) : List (String × Value) :=
  match returnType with
  | some returnType => [("returnType", .ofString returnType)]
  | none => []

/-- The record as a JSON value. -/
def FunctionRecord.toJson (record : FunctionRecord) : Value :=
  .ofMembers <|
    [("name", .ofString record.name),
      ("code", .ofString record.code),
      ("startLine", .ofNat record.startLine),
      ("endLine", .ofNat record.endLine),
      ("language", .ofString record.language),
      ("parameters", .ofStrings record.parameters)]
    ++ returnTypeMember record.returnType

/-- The names of a record's fields, in order. -/
def functionRecordFields : List String :=
  ["name", "code", "startLine", "endLine", "language", "parameters", "returnType"]

/-- The return type in a field that may be missing or null. -/
def returnTypeOfField? : Option Value → Option (Option String)
  | none => some none
  | some .null => some none
  | some value => value.string?.map some

/-- The record that a JSON value describes. -/
def FunctionRecord.ofJson? (value : Value) : Option FunctionRecord := do
  let fields ← value.fields? functionRecordFields
  match fields with
  | [name, code, startLine, endLine, language, parameters, returnType] =>
    return {
      name := ← name.bind Value.string?
      code := ← code.bind Value.string?
      startLine := ← startLine.bind Value.unsigned?
      endLine := ← endLine.bind Value.unsigned?
      language := ← language.bind Value.string?
      parameters := ← parameters.bind Value.strings?
      returnType := ← returnTypeOfField? returnType }
  | _ => none

/-- The record as compact JSON text. -/
def FunctionRecord.encode (record : FunctionRecord) : String :=
  record.toJson.compact

/-- The record that a JSON text describes. -/
def FunctionRecord.decode? (text : String) : Option FunctionRecord :=
  (Json.parse? text).bind FunctionRecord.ofJson?

end TestScribe.Locate
