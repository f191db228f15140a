import Mathlib.Algebra.Group.Nat.Defs
import Mathlib.Data.List.Nodup
import Mathlib.Data.Option.Basic
import TestScribe.Locate.FunctionRecordJson
import TestScribe.Proofs.Json.Fields
import TestScribe.Proofs.Json.Printing

/-!
# Records as JSON and back

The text of a record says everything that the record does.  Each field is one
member, printed and read on its own: texts with their escapes, line numbers with
their digits, parameters in order.  A return type is a member when there is one,
and none otherwise.
-/

namespace TestScribe.Locate

open TestScribe.Json

/-- The members of a record's JSON value. -/
def FunctionRecord.jsonMembers
    (record : FunctionRecord) :
    List (String × Value) :=
  [("name", .ofString record.name),
    ("code", .ofString record.code),
    ("startLine", .ofNat record.startLine),
    ("endLine", .ofNat record.endLine),
    ("language", .ofString record.language),
    ("parameters", .ofStrings record.parameters)]
  ++ returnTypeMember record.returnType

theorem FunctionRecord.toJson_eq
    (record : FunctionRecord) :
    record.toJson = .ofMembers record.jsonMembers :=
  rfl

/-- The members are named like the fields, and the last one is there only with a
return type. -/
theorem FunctionRecord.names_jsonMembers
    (record : FunctionRecord) :
    record.jsonMembers.map Prod.fst =
      if record.returnType.isSome then
        functionRecordFields
      else
        functionRecordFields.dropLast := by
  rw [jsonMembers]
  cases record.returnType <;> rfl

theorem FunctionRecord.nodup_names_jsonMembers
    (record : FunctionRecord) :
    (record.jsonMembers.map Prod.fst).Nodup := by
  rw [names_jsonMembers]
  split <;> decide

theorem isPrintable_returnTypeMember
    (returnType : Option String) :
    ∀ member ∈ returnTypeMember returnType, member.2.IsPrintable := by
  cases returnType with
  | none => exact List.forall_mem_nil _
  | some type =>
      exact
        List.forall_mem_singleton.mpr (Value.isPrintable_ofString type)

theorem FunctionRecord.isPrintable_toJson
    (record : FunctionRecord) :
    record.toJson.IsPrintable := by
  rw [toJson_eq]
  apply Value.isPrintable_ofMembers
  simp only [jsonMembers, List.forall_mem_append, List.forall_mem_cons,
    Value.isPrintable_ofString, Value.isPrintable_ofNat,
    Value.isPrintable_ofStrings, true_and]
  exact ⟨List.forall_mem_nil _, isPrintable_returnTypeMember _⟩

/-- The text of a record is parsed as the record's JSON value. -/
theorem FunctionRecord.parse?_encode
    (record : FunctionRecord) :
    parse? record.encode = some (.ofMembers record.jsonMembers) :=
  parse?_compact record.isPrintable_toJson

/-- The fields of a record's JSON value, in order. -/
theorem FunctionRecord.fields?_toJson
    (record : FunctionRecord) :
    record.toJson.fields? functionRecordFields =
      some
        [some (.ofString record.name), some (.ofString record.code),
          some (.ofNat record.startLine), some (.ofNat record.endLine),
          some (.ofString record.language),
          some (.ofStrings record.parameters),
          record.returnType.map Value.ofString] := by
  rw [toJson_eq, Value.ofMembers, Value.fields?_object]
  · rw [jsonMembers]
    cases record.returnType <;> rfl
  · intro member isMember
    rcases List.mem_map.mp isMember with ⟨named, -, rfl⟩
    rfl
  · have distinct :=
      record.nodup_names_jsonMembers.map (Option.some_injective String)
    intro name _
    rw [List.map_map]
    rw [List.map_map] at distinct
    exact List.nodup_iff_count_le_one.mp distinct (some name)

theorem returnTypeOfField?_map_ofString
    (returnType : Option String) :
    returnTypeOfField? (returnType.map Value.ofString) =
      some returnType := by
  cases returnType <;> rfl

/-- A record is described by a value with its fields. -/
theorem FunctionRecord.ofJson?_of_fields
    {record : FunctionRecord}
    {value : Value}
    {returnType : Option Value}
    (startFits : record.startLine < 2 ^ 64)
    (endFits : record.endLine < 2 ^ 64)
    (isType : returnTypeOfField? returnType = some record.returnType)
    (read :
      value.fields? functionRecordFields =
        some
          [some (.ofString record.name), some (.ofString record.code),
            some (.ofNat record.startLine), some (.ofNat record.endLine),
            some (.ofString record.language),
            some (.ofStrings record.parameters), returnType]) :
    ofJson? value = some record := by
  simp only [ofJson?, read, Option.bind_eq_bind, Option.bind_some,
    unsigned?_ofNat startFits, unsigned?_ofNat endFits,
    Value.strings?_ofStrings, isType]
  rfl

/-- A record is described by its own JSON value. -/
theorem FunctionRecord.ofJson?_toJson
    {record : FunctionRecord}
    (startFits : record.startLine < 2 ^ 64)
    (endFits : record.endLine < 2 ^ 64) :
    ofJson? record.toJson = some record :=
  ofJson?_of_fields startFits endFits
    (returnTypeOfField?_map_ofString record.returnType)
    record.fields?_toJson

/-- A record comes back from its own text. -/
theorem FunctionRecord.decode?_encode_of_lt
    {record : FunctionRecord}
    (startFits : record.startLine < 2 ^ 64)
    (endFits : record.endLine < 2 ^ 64) :
    decode? record.encode = some record := by
  rw [decode?, parse?_encode, Option.bind_some, ← toJson_eq]
  exact ofJson?_toJson startFits endFits

/--
A record comes back from its own text, whatever its texts hold and as long as its
line numbers have 64 bits.  The members of the text are named like the fields, and
without a return type there is no member for it.  A return type, even an empty
one, makes another text than none.
-/
theorem FunctionRecord.decode?_encode
    {record : FunctionRecord}
    (startFits : record.startLine < 2 ^ 64)
    (endFits : record.endLine < 2 ^ 64) :
    decode? record.encode = some record ∧
      (∃ members,
        parse? record.encode = some (.ofMembers members) ∧
          members.map Prod.fst =
              (if record.returnType.isSome then
                functionRecordFields
              else
                functionRecordFields.dropLast) ∧
            members.lookup "returnType" =
              record.returnType.map Value.ofString) ∧
      ∀ type,
        encode { record with returnType := some type } ≠
          encode { record with returnType := none } := by
  refine ⟨decode?_encode_of_lt startFits endFits, ?_, ?_⟩
  · refine
      ⟨record.jsonMembers, record.parse?_encode,
        record.names_jsonMembers, ?_⟩
    rw [jsonMembers]
    cases record.returnType <;> rfl
  · intro type same
    have typed :
        decode? (encode { record with returnType := some type }) =
          some { record with returnType := some type } :=
      decode?_encode_of_lt startFits endFits
    have untyped :
        decode? (encode { record with returnType := none }) =
          some { record with returnType := none } :=
      decode?_encode_of_lt startFits endFits
    rw [same, untyped] at typed
    cases typed

/-- A record with quotes, a control character, a character outside the basic plane
and an empty return type, on the last line that there is a number for. -/
theorem FunctionRecord.decode?_encode_escaped :
    let record : FunctionRecord :=
      { name := "f"
        code := "say(\"\\ \x01\");\n// 😀"
        startLine := 0
        endLine := 18446744073709551615
        language := ""
        parameters := ["a", "b = \"\\\""]
        returnType := some "" }
    decode? record.encode = some record ∧
      encode { record with returnType := some "" } ≠
        encode { record with returnType := none } := by
  intro record
  have back : decode? record.encode = some record ∧ _ ∧ _ :=
    decode?_encode (by decide) (by decide)
  exact ⟨back.1, back.2.2 ""⟩

end TestScribe.Locate
