import TestScribe.Proofs.Json.Reading

/-!
# Printed JSON

Compact text spells the value it was printed from, and so is parsed as that value
again.  The value may hold anything but numbers that are misspelled and literals
that spell no text.
-/

namespace TestScribe.Json

open TestScribe.Text

/-- A value whose text says what the value is. -/
inductive Value.IsPrintable :
    Value → Prop where
  | null : IsPrintable .null
  | boolean
      (value : Bool) :
      IsPrintable (.boolean value)
  | number
      {spelling : String}
      (isNumber : IsNumber spelling.toList) :
      IsPrintable (.number spelling)
  | text
      (text : String) :
      IsPrintable (.text (some text))
  | array
      {items : List Value}
      (printable : ∀ item ∈ items, IsPrintable item) :
      IsPrintable (.array items)
  | object
      {members : List (Literal × Value)}
      (named : ∀ member ∈ members, member.1.isSome = true)
      (printable : ∀ member ∈ members, IsPrintable member.2) :
      IsPrintable (.object members)

/-! ## Values made of texts and numbers -/

theorem Value.isPrintable_ofString
    (text : String) :
    (Value.ofString text).IsPrintable :=
  .text text

theorem Value.isPrintable_ofNat
    (number : Nat) :
    (Value.ofNat number).IsPrintable :=
  .number (isNumber_repr number)

theorem Value.isPrintable_ofStrings
    (texts : List String) :
    (Value.ofStrings texts).IsPrintable := by
  apply IsPrintable.array
  intro item member
  rcases List.mem_map.mp member with ⟨text, -, rfl⟩
  exact isPrintable_ofString text

theorem Value.isPrintable_ofMembers
    {members : List (String × Value)}
    (printable : ∀ member ∈ members, member.2.IsPrintable) :
    (Value.ofMembers members).IsPrintable := by
  apply IsPrintable.object
  · intro member isMember
    rcases List.mem_map.mp isMember with ⟨named, -, rfl⟩
    rfl
  · intro member isMember
    rcases List.mem_map.mp isMember with ⟨named, isNamed, rfl⟩
    exact printable named isNamed

/-! ## Compact text -/

theorem spells_compactItems
    {items : List Value}
    (nonempty : items ≠ [])
    (spelled :
      ∀ item ∈ items,
        Spells ((compactText item).map some) (.value item)) :
    Spells ((compactItems items).map some) (.items items) := by
  induction items with
  | nil => exact absurd rfl nonempty
  | cons item items ih =>
      have first := spelled item List.mem_cons_self
      cases items with
      | nil => exact .lastItem first
      | cons next items =>
          have others :=
            ih (List.cons_ne_nil next items) fun other member =>
              spelled other (List.mem_cons_of_mem _ member)
          simp only [compactItems, List.map_append, List.append_assoc]
          exact .nextItem first others

/-- A member is printed without white space. -/
theorem spells_compactMember
    {value : Value}
    (name : String)
    (spelled : Spells ((compactText value).map some) (.value value)) :
    Spells
      ((printedLiteral (some name) ++ [':'] ++ compactText value).map
        some)
      (.member (some name) value) := by
  have member :=
    Spells.member (List.forall_mem_nil _) (List.forall_mem_nil _)
      (spellsLiteral_stringLiteral name) spelled
  simpa [printedLiteral] using member

theorem spells_compactMembers
    {members : List (Literal × Value)}
    (nonempty : members ≠ [])
    (named : ∀ member ∈ members, member.1.isSome = true)
    (spelled :
      ∀ member ∈ members,
        Spells ((compactText member.2).map some) (.value member.2)) :
    Spells ((compactMembers members).map some) (.members members) := by
  induction members with
  | nil => exact absurd rfl nonempty
  | cons member members ih =>
      rcases member with ⟨literal, value⟩
      rcases Option.isSome_iff_exists.mp (named _ List.mem_cons_self) with
        ⟨name, rfl⟩
      have first :=
        spells_compactMember name (spelled _ List.mem_cons_self)
      cases members with
      | nil => exact .lastMember first
      | cons next members =>
          have others :=
            ih (List.cons_ne_nil next members)
              (fun other isMember =>
                named other (List.mem_cons_of_mem _ isMember))
              fun other isMember =>
                spelled other (List.mem_cons_of_mem _ isMember)
          have both := Spells.nextMember first others
          simpa [compactMembers] using both

/-- Compact text spells the value it was printed from. -/
theorem spells_compactText
    {value : Value}
    (printable : value.IsPrintable) :
    Spells ((compactText value).map some) (.value value) := by
  induction printable with
  | null => exact .nullWord
  | boolean value =>
      cases value with
      | true => exact .trueWord
      | false => exact .falseWord
  | @number spelling isNumber =>
      have spelled := Spells.number isNumber
      rwa [String.ofList_toList] at spelled
  | text text => exact .text (spellsLiteral_stringLiteral text)
  | @array items _ ih =>
      simp only [compactText, List.map_append]
      cases items with
      | nil => exact .emptyArray (List.forall_mem_nil _)
      | cons item items =>
          exact .array (spells_compactItems (List.cons_ne_nil _ _) ih)
  | @object members named _ ih =>
      simp only [compactText, List.map_append]
      cases members with
      | nil => exact .emptyObject (List.forall_mem_nil _)
      | cons member members =>
          exact
            .object
              (spells_compactMembers (List.cons_ne_nil _ _) named ih)

/-- Compact text is parsed as the value it was printed from. -/
theorem parse?_compact
    {value : Value}
    (printable : value.IsPrintable) :
    parse? value.compact = some value := by
  rw [parse?, Value.compact, String.toList_ofList]
  exact parseUnits?_of_spells (spells_compactText printable)

/-- Values with the same compact text are the same. -/
theorem Value.IsPrintable.eq_of_compact_eq
    {value other : Value}
    (printable : value.IsPrintable)
    (otherPrintable : other.IsPrintable)
    (same : value.compact = other.compact) :
    value = other := by
  have parsed := parse?_compact printable
  rw [same, parse?_compact otherPrintable] at parsed
  exact (Option.some.inj parsed).symm

/-! ## Values made of different parts -/

theorem Value.ofString_inj
    {text other : String} :
    Value.ofString text = .ofString other ↔ text = other := by
  simp [ofString]

theorem Value.ofStrings_inj
    {texts others : List String} :
    Value.ofStrings texts = .ofStrings others ↔ texts = others := by
  have injective : Function.Injective Value.ofString :=
    fun _ _ => ofString_inj.mp
  rw [ofStrings, ofStrings, Value.array.injEq]
  exact injective.list_map.eq_iff

theorem Value.ofMembers_inj
    {members others : List (String × Value)} :
    Value.ofMembers members = .ofMembers others ↔ members = others := by
  have injective :
      Function.Injective fun member : String × Value =>
        (some member.1, member.2) := by
    rintro ⟨name, value⟩ ⟨otherName, otherValue⟩ same
    cases same
    rfl
  rw [ofMembers, ofMembers, Value.object.injEq]
  exact injective.list_map.eq_iff

end TestScribe.Json
