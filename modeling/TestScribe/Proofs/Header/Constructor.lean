import TestScribe.Proofs.Header.MethodFront

/-!
# Constructors

A constructor is written as a method without a type, and is declared with the
default return type.  But any run of visible characters is taken for a type when
white space, a name and a parameter list follow it.  So a constructor whose list
holds no white space is passed over when the text behind it goes on in this way
behind its first run: the constructor is then the type, and the name that stands
there is declared in its place.
-/

namespace TestScribe.Header

open TestScribe.Source TestScribe.Text Grammar

/-- A constructor as it is written on a line. -/
structure Constructor extends MethodFront where
  name : List Char
  /-- What stands between the parentheses. -/
  raw : List Char
  /-- What stands behind the list. -/
  rest : List Char
  isName : IsName name
  noOpening : '(' ∉ raw
  noClosing : ')' ∉ raw

namespace Constructor

variable (constructor : Constructor)

/-- The name and the list as they are written. -/
def heading : List Char :=
  constructor.name ++ '(' :: (constructor.raw ++ [')'])

/-- The written line. -/
def line : Line :=
  constructor.before (constructor.heading ++ constructor.rest)

/-- What the constructor declares by itself. -/
def declared : Signature where
  name := String.ofList constructor.name
  parameters := splitParameters (String.ofList constructor.raw)
  returnType := some defaultReturnType

theorem heading_append
    (rest : List Char) :
    constructor.heading ++ rest =
      constructor.name ++ '(' :: (constructor.raw ++ ')' :: rest) := by
  simp [heading]

theorem stops :
    afterAnyKeyword? keywordModifiers
        (constructor.heading ++ constructor.rest) =
      none := by
  rw [heading_append]
  exact
    afterAnyKeyword?_of_name isName_of_mem_keywordModifiers
      constructor.isName (by decide) (by decide) _

theorem beginsVisible :
    BeginsVisible (constructor.heading ++ constructor.rest) := by
  rw [heading_append]
  exact constructor.isName.beginsVisible_append _

/-- The constructor is declared when no run of the text is taken for a type. -/
theorem method?_line_of_untyped
    (untyped :
      ∀ run name raw,
        ¬ Begins (typed run name raw)
            (constructor.heading ++ constructor.rest)) :
    method? constructor.line = some constructor.declared := by
  apply constructor.method?_before constructor.beginsVisible
    constructor.stops
  rw [member?_of_untyped untyped, heading_append,
    untypedMember?_append constructor.isName constructor.noClosing]
  rfl

/-- White space in the list ends the first run before the list is closed. -/
theorem not_begins_typed_of_white
    (spaced : ∃ character ∈ constructor.raw, isWhitespace character = true)
    (run name raw : List Char) :
    ¬ Begins (typed run name raw)
        (constructor.heading ++ constructor.rest) := by
  rcases exists_first_white spaced with
    ⟨before, space, behind, rawEq, white, solid⟩
  have noOpening := constructor.noOpening
  rw [rawEq, List.mem_append, List.mem_cons, not_or, not_or] at noOpening
  have frontSolid :
      ∀ character ∈ constructor.name ++ '(' :: before,
        isWhitespace character = false := by
    simp only [List.forall_mem_append, List.forall_mem_cons]
    exact ⟨constructor.isName.solid, by decide, solid⟩
  have pieces :
      constructor.heading ++ constructor.rest =
        (constructor.name ++ '(' :: before) ++
          space :: (behind ++ ')' :: constructor.rest) := by
    rw [heading_append, rawEq]
    simp only [List.append_assoc, List.cons_append]
  rw [pieces]
  exact
    not_begins_typed_of_stop frontSolid white noOpening.2.2 (by decide)
      (by decide) (by decide) constructor.rest

/-- Only without white space in the list has the constructor a type in front, and
then it belongs to the run that is the type. -/
theorem begins_typed_heading_iff
    {run name raw : List Char} :
    Begins (typed run name raw)
        (constructor.heading ++ constructor.rest) ↔
      (∀ character ∈ constructor.raw, isWhitespace character = false) ∧
        ∃ behind,
          run = constructor.heading ++ behind ∧
            Begins (typed behind name raw) constructor.rest := by
  by_cases solid :
    ∀ character ∈ constructor.raw, isWhitespace character = false
  · have headingSolid :
        ∀ character ∈ constructor.heading,
          isWhitespace character = false := by
      simp only [heading, List.forall_mem_append, List.forall_mem_cons]
      exact
        ⟨constructor.isName.solid, by decide, solid, by decide,
          List.forall_mem_nil _⟩
    rw [begins_typed_append_iff headingSolid]
    exact (and_iff_right solid).symm
  · have spaced :
        ∃ character ∈ constructor.raw, isWhitespace character = true := by
      simpa using solid
    exact
      iff_of_false (constructor.not_begins_typed_of_white spaced run name raw)
        fun both => solid both.1

/-- The name behind the run that has the constructor in it is declared. -/
theorem method?_line_of_typed
    (solid :
      ∀ character ∈ constructor.raw, isWhitespace character = false)
    {run name raw : List Char}
    (begins : Begins (typed run name raw) constructor.rest) :
    method? constructor.line =
      some
        ((Signature.ofRaw name raw).withReturnType
          (constructor.heading ++ run)) := by
  have nonempty : constructor.heading ++ run ≠ [] := by
    simp [heading]
  have headingBegins :=
    constructor.begins_typed_heading_iff.mpr ⟨solid, run, rfl, begins⟩
  exact
    constructor.method?_before constructor.beginsVisible
      constructor.stops (member?_of_typed nonempty headingBegins)

/-- The default return type is no constructor. -/
theorem declared_ne_withReturnType
    (name raw run : List Char) :
    constructor.declared ≠
      (Signature.ofRaw name raw).withReturnType
        (constructor.heading ++ run) := by
  intro same
  have types : "void" = String.ofList (constructor.heading ++ run) :=
    Option.some.inj (congrArg Signature.returnType same)
  have opening :
      '(' ∈ (String.ofList (constructor.heading ++ run)).toList := by
    simp [heading]
  rw [← types] at opening
  exact absurd opening (by decide)

end Constructor

/--
A constructor is declared with the default return type exactly when its list
holds white space, or when the text behind it does not go on, behind its first
run of visible characters, with white space, a name and a parameter list.
Otherwise this name is declared, with the constructor and the run as its type.
-/
theorem constructor_declared_iff
    (constructor : Constructor) :
    (method? constructor.line = some constructor.declared ↔
      (∃ character ∈ constructor.raw, isWhitespace character = true) ∨
        ∀ run name raw,
          ¬ Begins (typed run name raw) constructor.rest) ∧
      ∀ run name raw,
        (∀ character ∈ constructor.raw, isWhitespace character = false) →
          Begins (typed run name raw) constructor.rest →
            method? constructor.line =
              some
                ⟨String.ofList name, splitParameters (String.ofList raw),
                  some (String.ofList (constructor.heading ++ run))⟩ := by
  constructor
  · constructor
    · intro declared
      by_contra neither
      simp only [not_or, not_exists, not_and, Bool.not_eq_true,
        not_forall, not_not] at neither
      rcases neither with ⟨solid, run, name, raw, begins⟩
      have other := constructor.method?_line_of_typed solid begins
      rw [declared, Option.some.injEq] at other
      exact constructor.declared_ne_withReturnType name raw run other
    · intro passed
      apply constructor.method?_line_of_untyped
      intro run name raw begins
      rcases constructor.begins_typed_heading_iff.mp begins with
        ⟨solid, behind, -, behindBegins⟩
      rcases passed with ⟨character, member, white⟩ | untyped
      · rw [solid character member] at white
        exact nomatch white
      · exact untyped behind name raw behindBegins
  · intro run name raw solid begins
    exact constructor.method?_line_of_typed solid begins

/-- A body behind a space is passed by, while a body right behind the list is
taken for a type and a name. -/
theorem constructor_declared_iff_body :
    method? "public Foo() \x7b init(x); \x7d".toList =
        some ⟨"Foo", [], some "void"⟩ ∧
      method? "public Foo()\x7b init(x); \x7d".toList =
        some ⟨"init", ["x"], some "Foo()\x7b"⟩ := by
  let front : MethodFront :=
    ⟨[], .ofKeyword "public", [], by decide, by decide, by decide⟩
  let apart : Constructor :=
    ⟨front, "Foo".toList, [], " \x7b init(x); \x7d".toList,
      by decide, by decide, by decide⟩
  let together : Constructor :=
    ⟨front, "Foo".toList, [], "\x7b init(x); \x7d".toList,
      by decide, by decide, by decide⟩
  have untyped :
      ∀ run name raw, ¬ Begins (typed run name raw) apart.rest := by
    intro run name raw
    exact
      not_begins_typed_of_gap (List.forall_mem_nil _) (by decide)
        (by decide)
  have typedBody :
      Begins (typed ['{'] "init".toList ['x']) together.rest :=
    begins_typed_iff.mpr ⟨by decide, _, rfl, _, rfl⟩
  have apartLine : apart.line = "public Foo() \x7b init(x); \x7d".toList := by
    decide
  have apartDeclared : apart.declared = ⟨"Foo", [], some "void"⟩ := by
    decide
  have togetherLine :
      together.line = "public Foo()\x7b init(x); \x7d".toList := by
    decide
  have bodyDeclared :
      (⟨String.ofList "init".toList, splitParameters (String.ofList ['x']),
        some (String.ofList (together.heading ++ ['{']))⟩ : Signature) =
        ⟨"init", ["x"], some "Foo()\x7b"⟩ := by
    decide
  rw [← apartLine, ← apartDeclared, ← togetherLine, ← bodyDeclared]
  exact
    ⟨(constructor_declared_iff apart).1.mpr (.inr untyped),
      (constructor_declared_iff together).2 _ _ _ (List.forall_mem_nil _)
        typedBody⟩

/-- The body on the line of a constructor is declared in its place. -/
theorem constructor_body_declared :
    ∃ constructor : Constructor,
      constructor.rest.head? = some '{' ∧
        constructor.line = "public Foo()\x7b init(x); \x7d".toList ∧
          method? constructor.line =
            some ⟨"init", ["x"], some "Foo()\x7b"⟩ := by
  refine
    ⟨⟨⟨[], .ofKeyword "public", [], by decide, by decide, by decide⟩,
      "Foo".toList, [], "\x7b init(x); \x7d".toList, by decide, by decide,
      by decide⟩, ?_⟩
  decide

end TestScribe.Header
