import TestScribe.Proofs.Backend.Client
import TestScribe.Proofs.Json.Accepted
import TestScribe.Proofs.Json.Printing
import TestScribe.Proofs.Text.Utf8
import TestScribe.Proofs.Text.Whitespace

/-!
# How an answer is classified

The status of an answer that arrives in full comes first.  An answer of success is
taken for the test code that its body tells; any other is a refusal, with the
explanation that its body gives or else the whole body.  What a body says is the
JSON value that its units spell: the grammar decides whether there is one, and the
only field of the record what the value means.
-/

namespace TestScribe.Backend

open TestScribe.Json TestScribe.Text

/-! ## What a body says -/

/-- The field of a record that has only this one, as a value gives it.  An object
whose names are texts gives it by name, at most once; an array gives it as its only
item. -/
inductive GivesField
    (name : String) :
    Value → Option Value → Prop where
  | member
      {members : List (Literal × Value)}
      (named : ∀ member ∈ members, member.1.isSome = true)
      (once : (members.map Prod.fst).count (some name) ≤ 1) :
      GivesField name (.object members) (members.lookup (some name))
  | item
      {items : List Value}
      (atMostOne : items.length ≤ 1) :
      GivesField name (.array items) items.head?

/-- The test code in a field that may be missing or null. -/
inductive IsTestCode :
    Option Value → Option String → Prop where
  | missing : IsTestCode none none
  | null : IsTestCode (some .null) none
  | text
      (code : String) :
      IsTestCode (some (.ofString code)) (some code)

/-- The body is a JSON text that tells this test code, or that there is none. -/
def TellsTestCode
    (body : ByteArray)
    (code : Option String) : Prop :=
  ∃ value field,
    Spells (decodeUnits body) (.value value) ∧
      GivesField "testCode" value field ∧ IsTestCode field code

/-- The body is a JSON text that gives this explanation. -/
def Explains
    (body : ByteArray)
    (message : String) : Prop :=
  ∃ value,
    Spells (decodeUnits body) (.value value) ∧
      GivesField "error" value (some (.ofString message))

/-! ## The record's only field -/

section Field

variable
    {name : String}
    {value : Value}
    {field : Option Value}

theorem onlyField?_eq_some_iff_fields? :
    onlyField? name value = some field ↔
      value.fields? [name] = some [field] := by
  rw [onlyField?]
  split
  · next found read =>
    rw [read]
    simp
  · next notOne =>
    constructor
    · exact nofun
    · intro read
      exact absurd read (notOne field)

theorem onlyField?_eq_some_iff :
    onlyField? name value = some field ↔ GivesField name value field := by
  rw [onlyField?_eq_some_iff_fields?]
  constructor
  · intro read
    cases value with
    | object members =>
        rcases Value.fields?_object_eq_some_iff.mp read with
          ⟨named, once, same⟩
        cases same
        exact .member named (once name List.mem_cons_self)
    | array items =>
        rw [Value.fields?, Option.ite_none_right_eq_some] at read
        rcases read with ⟨atMostOne, same⟩
        cases same
        have gives : GivesField name (.array items) items.head? :=
          .item atMostOne
        rwa [List.head?_eq_getElem?] at gives
    | null => cases read
    | boolean value => cases read
    | number spelling => cases read
    | text literal => cases read
  · intro gives
    cases gives with
    | member named once =>
        apply Value.fields?_object_eq_some_iff.mpr
        exact ⟨named, List.forall_mem_singleton.mpr once, rfl⟩
    | item atMostOne =>
        rw [List.head?_eq_getElem?]
        exact if_pos atMostOne

theorem testCodeOf?_eq_some_iff
    {code : Option String} :
    testCodeOf? value = some code ↔
      ∃ field, GivesField "testCode" value field ∧ IsTestCode field code := by
  simp only [testCodeOf?, Option.bind_eq_bind, Option.bind_eq_some_iff,
    onlyField?_eq_some_iff]
  refine exists_congr fun field => and_congr_right fun _ => ?_
  constructor
  · intro read
    split at read
    · cases read
      exact .missing
    · cases read
      exact .null
    · rcases Option.map_eq_some_iff.mp read with ⟨text, isText, rfl⟩
      rw [Value.string?_eq_some_iff.mp isText]
      exact .text text
  · intro isCode
    cases isCode with
    | missing => rfl
    | null => rfl
    | text code => rfl

theorem explanationOf?_eq_some_iff
    {message : String} :
    explanationOf? value = some message ↔
      GivesField "error" value (some (.ofString message)) := by
  simp only [explanationOf?, Option.bind_eq_bind, Option.bind_eq_some_iff,
    onlyField?_eq_some_iff, Value.string?_eq_some_iff]
  constructor
  · rintro ⟨_, gives, _, rfl, rfl⟩
    exact gives
  · intro gives
    exact ⟨_, gives, _, rfl, rfl⟩

end Field

/-! ## The answer -/

section Answer

variable
    {status : Nat}
    {body : ByteArray}

theorem isSuccess_iff :
    isSuccess status = true ↔ 200 ≤ status ∧ status ≤ 299 := by
  rw [isSuccess, Bool.and_eq_true, decide_eq_true_eq, decide_eq_true_eq]

/-- The test code that is read from a body is the one that the body tells. -/
theorem testCode_eq_some_iff
    {code : Option String} :
    (parseBytes? body).bind testCodeOf? = some code ↔
      TellsTestCode body code := by
  simp only [Option.bind_eq_some_iff, parseBytes?, parseUnits?_eq_some_iff,
    testCodeOf?_eq_some_iff, TellsTestCode, exists_and_left]

theorem explanation_eq_some_iff
    {message : String} :
    (parseBytes? body).bind explanationOf? = some message ↔
      Explains body message := by
  simp only [Option.bind_eq_some_iff, parseBytes?, parseUnits?_eq_some_iff,
    explanationOf?_eq_some_iff, Explains]

theorem TellsTestCode.unique
    {code other : Option String}
    (tells : TellsTestCode body code)
    (tellsOther : TellsTestCode body other) :
    code = other := by
  have read := testCode_eq_some_iff.mpr tells
  rw [testCode_eq_some_iff.mpr tellsOther] at read
  exact (Option.some.inj read).symm

theorem readAnswer_of_no_testCode
    (success : isSuccess status = true)
    (tells : TellsTestCode body none) :
    readAnswer status body = .error .emptyAnswer := by
  rw [readAnswer, if_pos success, testCode_eq_some_iff.mpr tells]

theorem readAnswer_of_testCode
    {code : String}
    (success : isSuccess status = true)
    (tells : TellsTestCode body (some code)) :
    readAnswer status body =
      if isBlank code.toList then .error .emptyAnswer else .ok code := by
  rw [readAnswer, if_pos success, testCode_eq_some_iff.mpr tells]

theorem readAnswer_of_not_tells
    (success : isSuccess status = true)
    (silent : ∀ code, ¬ TellsTestCode body code) :
    readAnswer status body = .error .malformedJson := by
  cases read : (parseBytes? body).bind testCodeOf? with
  | none => rw [readAnswer, if_pos success, read]
  | some code => exact absurd (testCode_eq_some_iff.mp read) (silent code)

theorem readAnswer_of_explains
    {message : String}
    (failure : isSuccess status = false)
    (explains : Explains body message) :
    readAnswer status body = .error (.refused status message) := by
  rw [readAnswer, failure, explanation_eq_some_iff.mpr explains]
  rfl

/-- Without an explanation the whole body is shown. -/
theorem readAnswer_of_not_explains
    (failure : isSuccess status = false)
    (silent : ∀ message, ¬ Explains body message) :
    readAnswer status body =
      .error (.refused status (decodeLenient body)) := by
  cases read : (parseBytes? body).bind explanationOf? with
  | none =>
      rw [readAnswer, failure, read]
      rfl
  | some message =>
      exact absurd (explanation_eq_some_iff.mp read) (silent message)

/-- Test code is handed on if it holds something other than white space. -/
theorem readAnswer_eq_ok_iff
    {code : String} :
    readAnswer status body = .ok code ↔
      isSuccess status = true ∧
        TellsTestCode body (some code) ∧ isBlank code.toList = false := by
  constructor
  · intro read
    rcases eq_ok_of_readAnswer read with ⟨success, decoded, visible⟩
    exact ⟨success, testCode_eq_some_iff.mp decoded, visible⟩
  · rintro ⟨success, tells, visible⟩
    rw [readAnswer_of_testCode success tells, visible]
    rfl

theorem readAnswer_eq_emptyAnswer_iff
    (success : isSuccess status = true) :
    readAnswer status body = .error .emptyAnswer ↔
      TellsTestCode body none ∨
        ∃ code,
          TellsTestCode body (some code) ∧ isBlank code.toList = true := by
  constructor
  · intro read
    by_cases told : ∃ code, TellsTestCode body code
    · rcases told with ⟨_ | code, tells⟩
      · exact .inl tells
      · rw [readAnswer_of_testCode success tells] at read
        split at read
        · next blank => exact .inr ⟨code, tells, blank⟩
        · exact nomatch read
    · rw [readAnswer_of_not_tells success (not_exists.mp told)] at read
      exact nomatch read
  · rintro (tells | ⟨code, tells, blank⟩)
    · exact readAnswer_of_no_testCode success tells
    · rw [readAnswer_of_testCode success tells, if_pos blank]

theorem readAnswer_eq_malformedJson_iff
    (success : isSuccess status = true) :
    readAnswer status body = .error .malformedJson ↔
      ∀ code, ¬ TellsTestCode body code := by
  refine ⟨?_, readAnswer_of_not_tells success⟩
  rintro read (_ | code) tells
  · rw [readAnswer_of_no_testCode success tells] at read
    exact nomatch read
  · rw [readAnswer_of_testCode success tells] at read
    split at read
    · exact nomatch read
    · exact nomatch read

end Answer

/-! ## The body that tells a text -/

/-- The value of an answer with this test code. -/
def testCodeAnswer
    (code : String) :
    Value :=
  .ofMembers [("testCode", .ofString code)]

/-- The bytes of compact JSON spell the value that was printed. -/
theorem spells_toUTF8_compact
    {value : Value}
    (printable : value.IsPrintable) :
    Spells (decodeUnits value.compact.toUTF8) (.value value) := by
  rw [decodeUnits_toUTF8, Value.compact, String.toList_ofList]
  exact spells_compactText printable

theorem isPrintable_testCodeAnswer
    (code : String) :
    (testCodeAnswer code).IsPrintable :=
  Value.isPrintable_ofMembers
    (List.forall_mem_singleton.mpr (Value.isPrintable_ofString code))

/-- Compact JSON tells the test code that was put in. -/
theorem tellsTestCode_compact
    (code : String) :
    TellsTestCode (testCodeAnswer code).compact.toUTF8 (some code) := by
  have gives :
      GivesField "testCode" (testCodeAnswer code)
        (some (.ofString code)) :=
    .member (List.forall_mem_singleton.mpr rfl) List.count_le_length
  exact
    ⟨_, _, spells_toUTF8_compact (isPrintable_testCodeAnswer code), gives,
      .text code⟩

/--
What comes of an answer that arrives in full.  Its test code is handed on, as it
was sent, exactly when the status is one of success and the body tells a text with
something other than white space.  An answer of success tells no test code, or
something blank, exactly when the fault is an empty answer, and it is malformed
exactly when it tells nothing.  Under any other status the request is refused,
whatever the body: with the explanation in the body, or else with the whole body,
in which a text is shown as it is.  So test code comes through compact JSON
unchanged.
-/
theorem answer_classified
    (client : Client)
    (timeout status : Nat)
    (body : ByteArray) :
    (∀ code,
      client.testsFrom timeout (.answer status (.complete body)) =
          .ok code ↔
        (200 ≤ status ∧ status ≤ 299) ∧
          TellsTestCode body (some code) ∧
            ∃ character ∈ code.toList, isWhitespace character = false) ∧
      (200 ≤ status ∧ status ≤ 299 →
        (client.testsFrom timeout (.answer status (.complete body)) =
            .error .emptyAnswer ↔
          TellsTestCode body none ∨
            ∃ code,
              TellsTestCode body (some code) ∧
                ∀ character ∈ code.toList,
                  isWhitespace character = true) ∧
        (client.testsFrom timeout (.answer status (.complete body)) =
            .error .malformedJson ↔
          ∀ code, ¬ TellsTestCode body code)) ∧
      (¬ (200 ≤ status ∧ status ≤ 299) →
        (∀ message,
          Explains body message →
            client.testsFrom timeout (.answer status (.complete body)) =
              .error (.refused status message)) ∧
        ((∀ message, ¬ Explains body message) →
          client.testsFrom timeout (.answer status (.complete body)) =
              .error (.refused status (decodeLenient body)) ∧
            ∀ text : String,
              body = text.toUTF8 → decodeLenient body = text)) ∧
      ∀ code : String,
        200 ≤ status ∧ status ≤ 299 →
          (∃ character ∈ code.toList, isWhitespace character = false) →
            client.testsFrom timeout
                (.answer status
                  (.complete (testCodeAnswer code).compact.toUTF8)) =
              .ok code := by
  simp only [Client.testsFrom, ← isSuccess_iff, ← isBlank_eq_false_iff,
    ← isBlank_iff, Bool.not_eq_true]
  refine ⟨fun _ => readAnswer_eq_ok_iff, ?_, ?_, ?_⟩
  · intro success
    exact
      ⟨readAnswer_eq_emptyAnswer_iff success,
        readAnswer_eq_malformedJson_iff success⟩
  · intro failure
    refine ⟨fun _ => readAnswer_of_explains failure, ?_⟩
    intro silent
    refine ⟨readAnswer_of_not_explains failure silent, ?_⟩
    rintro text rfl
    exact decodeLenient_toUTF8 text
  · intro code success visible
    exact
      readAnswer_eq_ok_iff.mpr
        ⟨success, tellsTestCode_compact code, visible⟩

/-- Test code with quotes, a line feed, a control character and a character outside
the basic plane comes through.  Under a status that is no success the same body has
no explanation and is shown as it is, and the explanation may be the only item of an
array. -/
theorem answer_classified_escaped :
    let client : Client := ⟨Configuration.Settings.standard, 60000, 30000⟩
    let code := "say(\"\\ \x01\");\n// 😀"
    let sent := (testCodeAnswer code).compact
    client.testsFrom 30000 (.answer 201 (.complete sent.toUTF8)) =
        .ok code ∧
      client.testsFrom 30000 (.answer 503 (.complete sent.toUTF8)) =
          .error (.refused 503 sent) ∧
        client.testsFrom 30000 (.answer 200 (.complete "[".toUTF8)) =
            .error .malformedJson ∧
          client.testsFrom 30000
              (.answer 404 (.complete "[\"gone\"]".toUTF8)) =
            .error (.refused 404 "gone") := by
  intro client code sent
  refine ⟨?_, ?_, ?_, ?_⟩
  · have classified :=
      answer_classified client 30000 201 ByteArray.empty
    exact classified.2.2.2 code (by decide) ⟨'s', by decide, by decide⟩
  · have classified := answer_classified client 30000 503 sent.toUTF8
    have silent : ∀ message, ¬ Explains sent.toUTF8 message := by
      rintro message ⟨value, spelled, gives⟩
      have answer :=
        spells_toUTF8_compact (isPrintable_testCodeAnswer code)
      have nothing : onlyField? "error" (testCodeAnswer code) = some none :=
        rfl
      rw [← answer.unique spelled] at gives
      rw [onlyField?_eq_some_iff.mpr gives] at nothing
      exact nomatch nothing
    have shown := (classified.2.2.1 (by decide)).2 silent
    rw [shown.1, shown.2 sent rfl]
  · have classified := answer_classified client 30000 200 "[".toUTF8
    apply (classified.2.1 (by decide)).2.mpr
    intro told tells
    have nothing : (parseBytes? "[".toUTF8).bind testCodeOf? = none := by
      rfl
    rw [testCode_eq_some_iff.mpr tells] at nothing
    exact nomatch nothing
  · have classified :=
      answer_classified client 30000 404 "[\"gone\"]".toUTF8
    apply (classified.2.2.1 (by decide)).1
    exact explanation_eq_some_iff.mp rfl

end TestScribe.Backend
