import Mathlib.Algebra.Module.Submodule.Lattice
import Mathlib.Data.List.Permutation
import TestScribe.Proofs.Json.Accepted
import TestScribe.Proofs.Locate.FunctionRecordJson

/-!
# The layout of a record's JSON text

A record is read from the members of an object by their names, so neither their
order nor the white space between them nor other members make a difference, and a
return type that is null is none.  A member that has the name of a field is never
passed over: a field that is repeated cannot be read, and neither can a record
without one of its first six fields.  The names of the other members have to spell
texts, whereas their values may be any JSON.
-/

namespace TestScribe.Locate

open TestScribe.Json

/-! ## The members of a laid out record -/

/-- The members that every text of the record has. -/
def FunctionRecord.mandatoryMembers
    (record : FunctionRecord) :
    List (Literal × Value) :=
  [(some "name", .ofString record.name),
    (some "code", .ofString record.code),
    (some "startLine", .ofNat record.startLine),
    (some "endLine", .ofNat record.endLine),
    (some "language", .ofString record.language),
    (some "parameters", .ofStrings record.parameters)]

/-- The members for a return type.  Without one the member is missing or null. -/
inductive LaysOutReturnType :
    Option String → List (Literal × Value) → Prop where
  | text
      (type : String) :
      LaysOutReturnType (some type) [(some "returnType", .ofString type)]
  | missing : LaysOutReturnType none []
  | null : LaysOutReturnType none [(some "returnType", .null)]

/-- The member's name is a text, and no field has it. -/
def IsForeign
    (member : Literal × Value) : Prop :=
  ∃ name, name ∉ functionRecordFields ∧ member.1 = some name

/-- The members are those of the record and foreign ones, in any order. -/
inductive FunctionRecord.IsLaidOut
    (record : FunctionRecord) :
    List (Literal × Value) → Prop where
  | rearranged
      {returnType others members : List (Literal × Value)}
      (laysOut : LaysOutReturnType record.returnType returnType)
      (foreign : ∀ other ∈ others, IsForeign other)
      (perm :
        (record.mandatoryMembers ++ (returnType ++ others)).Perm
          members) :
      IsLaidOut record members

section Layout

variable
    {type : Option String}
    {returnType others members : List (Literal × Value)}
    {name : String}

/-- Other members name no field. -/
theorem field_not_mem_others
    (foreign : ∀ other ∈ others, IsForeign other)
    (isField : name ∈ functionRecordFields) :
    some name ∉ others.map Prod.fst := by
  intro member
  rcases List.mem_map.mp member with ⟨other, isOther, named⟩
  rcases foreign other isOther with ⟨otherName, notField, otherNamed⟩
  rw [otherNamed, Option.some.injEq] at named
  exact notField (named ▸ isField)

/-- Each field is laid out once at most. -/
theorem count_field_le_one
    (record : FunctionRecord)
    (laysOut : LaysOutReturnType type returnType)
    (foreign : ∀ other ∈ others, IsForeign other)
    (isField : name ∈ functionRecordFields) :
    ((record.mandatoryMembers ++ (returnType ++ others)).map
      Prod.fst).count (some name) ≤ 1 := by
  have notOther : (others.map Prod.fst).count (some name) = 0 :=
    List.count_eq_zero.mpr (field_not_mem_others foreign isField)
  have once :
      ∀ field ∈ functionRecordFields,
        (functionRecordFields.map some).count (some field) ≤ 1 := by
    decide
  have onceWithout :
      ∀ field ∈ functionRecordFields,
        (functionRecordFields.dropLast.map some).count (some field) ≤ 1 := by
    decide
  rw [List.map_append, List.map_append, ← List.append_assoc,
    List.count_append, notOther, Nat.add_zero]
  cases laysOut with
  | text type => exact once name isField
  | missing => exact onceWithout name isField
  | null => exact once name isField

/-- The fields of a laid out record. -/
theorem lookup_laidOut
    (record : FunctionRecord)
    (laysOut : LaysOutReturnType type returnType)
    (foreign : ∀ other ∈ others, IsForeign other) :
    ∃ field,
      returnTypeOfField? field = some type ∧
        (functionRecordFields.map fun name =>
            (record.mandatoryMembers ++ (returnType ++ others)).lookup
              (some name)) =
          [some (.ofString record.name), some (.ofString record.code),
            some (.ofNat record.startLine), some (.ofNat record.endLine),
            some (.ofString record.language),
            some (.ofStrings record.parameters), field] := by
  have noOther : others.lookup (some "returnType") = none := by
    rw [List.lookup_eq_none_iff]
    intro other isOther
    rw [bne_iff_ne]
    intro named
    exact
      field_not_mem_others foreign (by decide)
        (List.mem_map.mpr ⟨other, isOther, named.symm⟩)
  cases laysOut with
  | text type => exact ⟨some (.ofString type), rfl, rfl⟩
  | missing =>
      refine ⟨others.lookup (some "returnType"), ?_, rfl⟩
      rw [noOther]
      rfl
  | null => exact ⟨some .null, rfl, rfl⟩

end Layout

/-! ## Reading a laid out record -/

theorem LaysOutReturnType.named
    {type : Option String}
    {returnType : List (Literal × Value)}
    (laysOut : LaysOutReturnType type returnType) :
    ∀ member ∈ returnType, member.1.isSome = true := by
  cases laysOut with
  | text type => exact List.forall_mem_singleton.mpr rfl
  | missing => exact List.forall_mem_nil _
  | null => exact List.forall_mem_singleton.mpr rfl

/-- The names in a layout are texts. -/
theorem FunctionRecord.IsLaidOut.named
    {record : FunctionRecord}
    {members : List (Literal × Value)}
    (isLaidOut : record.IsLaidOut members) :
    ∀ member ∈ members, member.1.isSome = true := by
  rcases isLaidOut with @⟨returnType, others, _, laysOut, foreign, perm⟩
  intro member isMember
  have mandatory :
      ∀ member ∈ record.mandatoryMembers, member.1.isSome = true := by
    simp [mandatoryMembers]
  rw [← perm.mem_iff, List.mem_append, List.mem_append] at isMember
  rcases isMember with isMandatory | isReturnType | isOther
  · exact mandatory member isMandatory
  · exact laysOut.named member isReturnType
  · rcases foreign member isOther with ⟨name, -, named⟩
    rw [named]
    rfl

theorem FunctionRecord.IsLaidOut.ofJson?_object
    {record : FunctionRecord}
    {members : List (Literal × Value)}
    (isLaidOut : record.IsLaidOut members)
    (startFits : record.startLine < 2 ^ 64)
    (endFits : record.endLine < 2 ^ 64) :
    ofJson? (.object members) = some record := by
  have named := isLaidOut.named
  rcases isLaidOut with ⟨laysOut, foreign, perm⟩
  rcases lookup_laidOut record laysOut foreign with
    ⟨field, isType, fields⟩
  apply ofJson?_of_fields startFits endFits isType
  rw [← fields]
  apply Value.fields?_object_eq_some_iff.mpr
  refine ⟨named, ?_, ?_⟩
  · intro name isField
    rw [← (perm.map Prod.fst).count_eq]
    exact count_field_le_one record laysOut foreign isField
  · apply List.map_congr_left
    intro name isField
    exact
      lookup_eq_of_perm perm
        (count_field_le_one record laysOut foreign isField)

/-! ## Texts that cannot be read -/

section Refused

variable
    {record : FunctionRecord}
    {members : List (Literal × Value)}

theorem field_mem_of_bind
    {α : Type}
    {read? : Value → Option α}
    {name : String}
    {found : α}
    (read : (members.lookup (some name)).bind read? = some found) :
    some name ∈ members.map Prod.fst := by
  rcases Option.bind_eq_some_iff.mp read with ⟨value, present, -⟩
  rcases List.lookup_eq_some_iff.mp present with ⟨front, back, rfl, -⟩
  simp

/-- An object that describes a record has texts for names, repeats no field and
has all but the return type. -/
theorem FunctionRecord.members_of_ofJson?
    (described : ofJson? (.object members) = some record) :
    (∀ member ∈ members, member.1.isSome = true) ∧
      (∀ name ∈ functionRecordFields,
        (members.map Prod.fst).count (some name) ≤ 1) ∧
        ∀ name ∈ functionRecordFields.dropLast,
          some name ∈ members.map Prod.fst := by
  simp only [ofJson?, Option.bind_eq_bind, Option.bind_eq_some_iff]
    at described
  rcases described with ⟨fields, read, described⟩
  rcases Value.fields?_object_eq_some_iff.mp read with
    ⟨named, once, rfl⟩
  refine ⟨named, once, ?_⟩
  simp only [functionRecordFields, List.map_cons, List.map_nil]
    at described
  rcases Option.bind_eq_some_iff.mp described with ⟨_, name, described⟩
  rcases Option.bind_eq_some_iff.mp described with ⟨_, code, described⟩
  rcases Option.bind_eq_some_iff.mp described with ⟨_, start, described⟩
  rcases Option.bind_eq_some_iff.mp described with ⟨_, stop, described⟩
  rcases Option.bind_eq_some_iff.mp described with
    ⟨_, language, described⟩
  rcases Option.bind_eq_some_iff.mp described with ⟨_, parameters, -⟩
  simp only [functionRecordFields, List.dropLast_cons_cons,
    List.dropLast_singleton, List.forall_mem_cons]
  exact
    ⟨field_mem_of_bind name, field_mem_of_bind code,
      field_mem_of_bind start, field_mem_of_bind stop,
      field_mem_of_bind language, field_mem_of_bind parameters,
      List.forall_mem_nil _⟩

end Refused

theorem FunctionRecord.decode?_eq_ofJson?
    {text : String}
    {value : Value}
    (spelled : SpellsText text value) :
    decode? text = ofJson? value := by
  rw [decode?, parse?_eq_some_iff.mpr spelled, Option.bind_some]

/-- What is read from the text of an object has texts for its names, repeats no field
and has all but the return type. -/
theorem FunctionRecord.decode?_eq_none
    {text : String}
    {members : List (Literal × Value)}
    (spelled : SpellsText text (.object members))
    (defect :
      (∃ member ∈ members, member.1 = none) ∨
        (∃ name ∈ functionRecordFields,
          1 < (members.map Prod.fst).count (some name)) ∨
          ∃ name ∈ functionRecordFields.dropLast,
            some name ∉ members.map Prod.fst) :
    decode? text = none := by
  rw [decode?_eq_ofJson? spelled, Option.eq_none_iff_forall_ne_some]
  intro record described
  rcases members_of_ofJson? described with ⟨named, once, present⟩
  rcases defect with
    ⟨member, isMember, nameless⟩ | ⟨name, isField, repeated⟩ |
      ⟨name, isField, missing⟩
  · have isNamed := named member isMember
    rw [nameless] at isNamed
    exact nomatch isNamed
  · exact absurd (once name isField) (Nat.not_le.mpr repeated)
  · exact missing (present name isField)

/--
A record is read from every text that lays it out: whatever the order of its
members, the white space and the spelling of its strings, with foreign members in
any place, and with or without a null in place of a return type that there is not.
A text that repeats a field or misses one of the first six is never read, nor is
one with a member whose name spells no text.
-/
theorem FunctionRecord.decode?_laidOut
    {record : FunctionRecord}
    (startFits : record.startLine < 2 ^ 64)
    (endFits : record.endLine < 2 ^ 64) :
    (∀ text members,
      SpellsText text (.object members) →
        record.IsLaidOut members → decode? text = some record) ∧
      (∀ text members,
        SpellsText text (.object members) →
          (∃ name ∈ functionRecordFields,
            1 < (members.map Prod.fst).count (some name)) →
            decode? text = none) ∧
      (∀ text members,
        SpellsText text (.object members) →
          (∃ name ∈ functionRecordFields.dropLast,
            some name ∉ members.map Prod.fst) →
            decode? text = none) ∧
      ∀ text members,
        SpellsText text (.object members) →
          (∃ member ∈ members, member.1 = none) →
            decode? text = none := by
  refine ⟨?_, ?_, ?_, ?_⟩
  · intro text members spelled isLaidOut
    rw [decode?_eq_ofJson? spelled]
    exact isLaidOut.ofJson?_object startFits endFits
  · intro text members spelled repeated
    exact decode?_eq_none spelled (.inr (.inl repeated))
  · intro text members spelled missing
    exact decode?_eq_none spelled (.inr (.inr missing))
  · intro text members spelled nameless
    exact decode?_eq_none spelled (.inl nameless)

/-- A text with the members from the last to the first, white space, a null and a
foreign member whose value holds the name of a field and half of a surrogate pair;
texts that repeat a field, miss one or name half of a pair. -/
theorem FunctionRecord.decode?_laidOut_reversed :
    let record : FunctionRecord :=
      { name := "f"
        code := "c"
        startLine := 0
        endLine := 1
        language := "l"
        parameters := ["a"]
        returnType := none }
    let text :=
      "\x7b \"x\" :[ \x7b\"name\": \"\\udc00\"\x7d, -1e5 ],\n" ++
        "\"returnType\": null, \"parameters\":[ \"a\" ] ," ++
        "\"language\":\"l\",\"endLine\":1," ++
        "\"startLine\":0,\"code\":\"c\",\t\"name\":\"f\" \x7d "
    decode? text = some record ∧
      decode? "\x7b\"returnType\":null,\"returnType\":null\x7d" = none ∧
        decode? "\x7b\"name\":\"f\"\x7d" = none ∧
          decode? "\x7b\"\\ud800\":0\x7d" = none := by
  intro record text
  have laidOut : (∀ text members, _ → record.IsLaidOut members → _) ∧ _ :=
    decode?_laidOut (by decide) (by decide)
  let foreign : Literal × Value :=
    (some "x",
      .array [.object [(some "name", .text none)], .number "-1e5"])
  let members : List (Literal × Value) :=
    (record.mandatoryMembers ++
      ([(some "returnType", Value.null)] ++ [foreign])).reverse
  refine ⟨?_, ?_, ?_, ?_⟩
  · apply laidOut.1 text members
    · apply parse?_eq_some_iff.mp
      dsimp only [text, members, record, foreign]
      cbv
    · have isForeign : ∀ other ∈ [foreign], IsForeign other :=
        List.forall_mem_singleton.mpr ⟨"x", by decide, rfl⟩
      exact .rearranged .null isForeign (List.reverse_perm _).symm
  · apply laidOut.2.1 _
      [(some "returnType", .null), (some "returnType", .null)]
    · apply parse?_eq_some_iff.mp
      cbv
    · exact ⟨"returnType", by decide, by decide⟩
  · apply laidOut.2.2.1 _ [(some "name", .ofString "f")]
    · apply parse?_eq_some_iff.mp
      cbv
    · exact ⟨"code", by decide, by decide⟩
  · apply laidOut.2.2.2 _ [(none, .number "0")]
    · apply parse?_eq_some_iff.mp
      cbv
    · exact ⟨_, List.mem_cons_self, rfl⟩

/-- A member that has none of the fields' names, but half of a surrogate pair for its
own, makes the text of a record unreadable. -/
theorem half_pair_name_refused :
    let record : FunctionRecord :=
      { name := "f"
        code := "c"
        startLine := 0
        endLine := 1
        language := "l"
        parameters := ["a"]
        returnType := none }
    let text :=
      "\x7b\"\\ud800\":0,\"name\":\"f\",\"code\":\"c\",\"startLine\":0,\"endLine\":1," ++
        "\"language\":\"l\",\"parameters\":[\"a\"]\x7d"
    ∃ other members,
      (∀ name ∈ functionRecordFields, other.1 ≠ some name) ∧
        (record.mandatoryMembers ++ [other]).Perm members ∧
          SpellsText text (.object members) ∧
            FunctionRecord.decode? text ≠ some record := by
  intro record text
  have spelled :
      SpellsText text
        (.object ((none, .number "0") :: record.mandatoryMembers)) := by
    apply parse?_eq_some_iff.mp
    dsimp only [text, record]
    cbv
  refine ⟨(none, .number "0"), _, ?_, ?_, spelled, ?_⟩
  · intro name _ named
    cases named
  · exact List.perm_append_comm
  · rw [FunctionRecord.decode?_eq_none spelled
      (.inl ⟨_, List.mem_cons_self, rfl⟩)]
    exact (Option.some_ne_none record).symm

end TestScribe.Locate
