import TestScribe.Backend.Client
import TestScribe.Proofs.Json.Accepted

/-!
# What the backend is told

The body of a request for tests is compact JSON, and every parser of JSON finds in
it the object that was printed.  The object has a member for each text that is
there and none for a text that is not, and it has no line numbers.  So the body
tells what tests are asked for, up to the place of a function in its file.
-/

namespace TestScribe.Backend

open TestScribe.Json TestScribe.Locate

/-- The object with these members, of which those without a value are not there. -/
def objectOf
    (members : List (String × Option Value)) :
    Value :=
  .ofMembers
    (members.filterMap fun (name, value) =>
      value.map fun value => (name, value))

/-- What tests are asked for. -/
inductive TestSubject where
  | file
      (content language : String)
      (filePath : Option String)
  | function
      (record : FunctionRecord)
      (filePath : String)
      (projectStructure : Option String)
  deriving DecidableEq

/-- The request for tests of the subject. -/
def Client.requestFor
    (client : Client) :
    TestSubject → Request
  | .file content language filePath =>
      client.fileRequest content language filePath
  | .function record filePath projectStructure =>
      client.functionRequest record filePath projectStructure

/-- The subject without the place of a function in its file. -/
def TestSubject.withoutLines :
    TestSubject → TestSubject
  | .file content language filePath => .file content language filePath
  | .function record filePath projectStructure =>
      .function { record with startLine := 0, endLine := 0 } filePath
        projectStructure

/-! ## Payloads -/

/-- What the backend is told about the subject. -/
def TestSubject.payload :
    TestSubject → Value
  | .file content language filePath =>
      filePayload content language filePath
  | .function record filePath projectStructure =>
      functionPayload record filePath projectStructure

theorem Client.body_requestFor
    (client : Client)
    (subject : TestSubject) :
    (client.requestFor subject).body = some subject.payload.compact := by
  cases subject <;> rfl

theorem filePayload_eq_objectOf
    (content language : String)
    (filePath : Option String) :
    filePayload content language filePath =
      objectOf
        [("fileContent", some (.ofString content)),
          ("language", some (.ofString language)),
          ("filePath", filePath.map Value.ofString)] := by
  cases filePath <;> rfl

theorem functionMember_eq_objectOf
    (record : FunctionRecord) :
    functionMember record =
      objectOf
        [("name", some (.ofString record.name)),
          ("code", some (.ofString record.code)),
          ("language", some (.ofString record.language)),
          ("parameters", some (.ofStrings record.parameters)),
          ("returnType", record.returnType.map Value.ofString)] := by
  rw [functionMember]
  cases record.returnType <;> rfl

theorem functionPayload_eq_objectOf
    (record : FunctionRecord)
    (filePath : String)
    (projectStructure : Option String) :
    functionPayload record filePath projectStructure =
      objectOf
        [("function", some (functionMember record)),
          ("context",
            some
              (objectOf
                [("filePath", some (.ofString filePath)),
                  ("projectStructure",
                    projectStructure.map Value.ofString)]))] := by
  cases projectStructure <;> rfl

/-! ## Payloads are printable -/

/-- An object is printable when its members are. -/
theorem isPrintable_objectOf
    {members : List (String × Option Value)}
    (printable :
      ∀ member ∈ members, ∀ value ∈ member.2, value.IsPrintable) :
    (objectOf members).IsPrintable := by
  apply Value.isPrintable_ofMembers
  intro member isMember
  rcases List.mem_filterMap.mp isMember with
    ⟨⟨name, value⟩, isIn, present⟩
  rcases Option.map_eq_some_iff.mp present with ⟨found, isFound, rfl⟩
  exact printable _ isIn found isFound

theorem isPrintable_functionMember
    (record : FunctionRecord) :
    (functionMember record).IsPrintable := by
  rw [functionMember_eq_objectOf]
  apply isPrintable_objectOf
  simp [Value.isPrintable_ofString, Value.isPrintable_ofStrings]

theorem TestSubject.isPrintable_payload
    (subject : TestSubject) :
    subject.payload.IsPrintable := by
  cases subject with
  | file content language filePath =>
      rw [payload, filePayload_eq_objectOf]
      apply isPrintable_objectOf
      simp [Value.isPrintable_ofString]
  | function record filePath projectStructure =>
      have context :
          (objectOf
            [("filePath", some (.ofString filePath)),
              ("projectStructure",
                projectStructure.map Value.ofString)]).IsPrintable := by
        apply isPrintable_objectOf
        simp [Value.isPrintable_ofString]
      rw [payload, functionPayload_eq_objectOf]
      apply isPrintable_objectOf
      simp [isPrintable_functionMember, context]

/-! ## Payloads that are the same -/

theorem optionalMember_inj
    {name : String}
    {text other : Option String} :
    optionalMember name text = optionalMember name other ↔
      text = other := by
  cases text <;> cases other <;>
    simp [optionalMember, Value.ofString_inj]

theorem filePayload_inj
    {content language otherContent otherLanguage : String}
    {filePath otherPath : Option String} :
    filePayload content language filePath =
        filePayload otherContent otherLanguage otherPath ↔
      content = otherContent ∧ language = otherLanguage ∧
        filePath = otherPath := by
  simp [filePayload, Value.ofMembers_inj, Value.ofString_inj,
    optionalMember_inj]

/-- The object about a function tells all of its record but the lines. -/
theorem functionMember_inj
    {record other : FunctionRecord} :
    functionMember record = functionMember other ↔
      { record with startLine := 0, endLine := 0 } =
        { other with startLine := 0, endLine := 0 } := by
  simp [functionMember, Value.ofMembers_inj, Value.ofString_inj,
    Value.ofStrings_inj, optionalMember_inj]

theorem functionPayload_inj
    {record other : FunctionRecord}
    {filePath otherPath : String}
    {projectStructure otherStructure : Option String} :
    functionPayload record filePath projectStructure =
        functionPayload other otherPath otherStructure ↔
      { record with startLine := 0, endLine := 0 } =
          { other with startLine := 0, endLine := 0 } ∧
        filePath = otherPath ∧ projectStructure = otherStructure := by
  simp only [functionPayload, Value.ofMembers_inj, List.cons.injEq,
    Prod.mk.injEq, functionMember_inj, Value.ofString_inj,
    optionalMember_inj, true_and, and_true]

theorem filePayload_ne_functionPayload
    (content language : String)
    (filePath : Option String)
    (record : FunctionRecord)
    (functionPath : String)
    (projectStructure : Option String) :
    filePayload content language filePath ≠
      functionPayload record functionPath projectStructure := by
  simp [filePayload, functionPayload, Value.ofMembers_inj]

theorem TestSubject.payload_eq_iff
    {subject other : TestSubject} :
    subject.payload = other.payload ↔
      subject.withoutLines = other.withoutLines := by
  cases subject with
  | file content language filePath =>
      cases other with
      | file otherContent otherLanguage otherPath =>
          rw [payload, payload, filePayload_inj, withoutLines,
            withoutLines, file.injEq]
      | function record functionPath projectStructure =>
          exact
            iff_of_false (filePayload_ne_functionPayload _ _ _ _ _ _)
              nofun
  | function record filePath projectStructure =>
      cases other with
      | file content language otherPath =>
          exact
            iff_of_false (filePayload_ne_functionPayload _ _ _ _ _ _).symm
              nofun
      | function other otherPath otherStructure =>
          rw [payload, payload, functionPayload_inj, withoutLines,
            withoutLines, function.injEq]

/-! ## Bodies -/

/-- Two bodies are the same text exactly when they are about the same subject, up to
line numbers. -/
theorem Client.body_requestFor_eq_iff
    (client otherClient : Client)
    (subject other : TestSubject) :
    (client.requestFor subject).body =
        (otherClient.requestFor other).body ↔
      subject.withoutLines = other.withoutLines := by
  rw [body_requestFor, body_requestFor, Option.some.injEq,
    ← TestSubject.payload_eq_iff]
  constructor
  · exact
      subject.isPrintable_payload.eq_of_compact_eq
        other.isPrintable_payload
  · exact congrArg Value.compact

/--
What every parser of JSON finds in the bodies of requests for tests: an object with
the texts that were given and no other members, where a text that is not there has
no member.  The object about a function has its parameters in order and no line
numbers.  So two bodies are the same only when they are about the same subject, up
to the lines of a function.
-/
theorem body_tells_subject :
    (∀ (client : Client) (content language : String)
        (filePath : Option String),
      ∃ body,
        (client.fileRequest content language filePath).body =
            some body ∧
          ∀ (β : Type) (view : Value → β) (parser : String → Option β),
            IsJsonParser view parser →
              parser body =
                some
                  (view
                    (objectOf
                      [("fileContent", some (.ofString content)),
                        ("language", some (.ofString language)),
                        ("filePath", filePath.map Value.ofString)]))) ∧
      (∀ (client : Client) (record : FunctionRecord) (filePath : String)
          (projectStructure : Option String),
        ∃ body,
          (client.functionRequest record filePath projectStructure).body =
              some body ∧
            ∀ (β : Type) (view : Value → β)
                (parser : String → Option β),
              IsJsonParser view parser →
                parser body =
                  some
                    (view
                      (objectOf
                        [("function",
                            some
                              (objectOf
                                [("name", some (.ofString record.name)),
                                  ("code", some (.ofString record.code)),
                                  ("language",
                                    some (.ofString record.language)),
                                  ("parameters",
                                    some
                                      (.ofStrings record.parameters)),
                                  ("returnType",
                                    record.returnType.map
                                      Value.ofString)])),
                          ("context",
                            some
                              (objectOf
                                [("filePath",
                                    some (.ofString filePath)),
                                  ("projectStructure",
                                    projectStructure.map
                                      Value.ofString)]))]))) ∧
        ∀ (client otherClient : Client) (subject other : TestSubject),
          (client.requestFor subject).body =
              (otherClient.requestFor other).body ↔
            subject.withoutLines = other.withoutLines := by
  refine ⟨?_, ?_, Client.body_requestFor_eq_iff⟩
  · intro client content language filePath
    refine
      ⟨_, client.body_requestFor (.file content language filePath), ?_⟩
    intro β view parser isParser
    rw [isParser.compact (TestSubject.isPrintable_payload _),
      TestSubject.payload, filePayload_eq_objectOf]
  · intro client record filePath projectStructure
    refine
      ⟨_, client.body_requestFor
        (.function record filePath projectStructure), ?_⟩
    intro β view parser isParser
    rw [isParser.compact (TestSubject.isPrintable_payload _),
      TestSubject.payload, functionPayload_eq_objectOf,
      functionMember_eq_objectOf]

/-- Quotes, a line feed, a control character and a character outside the basic plane
come through, what is not there has no member, and the lines of a function make no
difference, unlike its code. -/
theorem body_tells_subject_escaped :
    let client : Client := ⟨Configuration.Settings.standard, 60000, 30000⟩
    let record : FunctionRecord :=
      { name := "f"
        code := "say(\"\\ \x01\");\n// 😀"
        startLine := 3
        endLine := 4
        language := "l"
        parameters := ["b", "a"]
        returnType := none }
    let moved := { record with startLine := 0, endLine := 1 }
    let changed := { record with code := "" }
    (∃ body,
      (client.fileRequest record.code "l" none).body = some body ∧
        parse? body =
          some
            (.ofMembers
              [("fileContent", .ofString record.code),
                ("language", .ofString "l")])) ∧
      (∃ body,
        (client.functionRequest record "p" none).body = some body ∧
          parse? body =
            some
              (.ofMembers
                [("function",
                    .ofMembers
                      [("name", .ofString "f"),
                        ("code", .ofString record.code),
                        ("language", .ofString "l"),
                        ("parameters", .ofStrings ["b", "a"])]),
                  ("context",
                    .ofMembers [("filePath", .ofString "p")])])) ∧
        (client.functionRequest record "p" none).body =
            (client.functionRequest moved "p" none).body ∧
          (client.functionRequest record "p" none).body ≠
            (client.functionRequest changed "p" none).body := by
  intro client record moved changed
  rcases body_tells_subject with ⟨ofFile, ofFunction, sameBody⟩
  refine ⟨?_, ?_, ?_, ?_⟩
  · rcases ofFile client record.code "l" none with ⟨body, sent, reads⟩
    exact ⟨body, sent, reads _ id parse? isJsonParser_parse?⟩
  · rcases ofFunction client record "p" none with ⟨body, sent, reads⟩
    exact ⟨body, sent, reads _ id parse? isJsonParser_parse?⟩
  · exact
      (sameBody client client (.function record "p" none)
        (.function moved "p" none)).mpr rfl
  · intro same
    have told :=
      (sameBody client client (.function record "p" none)
        (.function changed "p" none)).mp same
    exact absurd told (by decide)

end TestScribe.Backend
