import TestScribe.Header.Method
import TestScribe.Proofs.Header.Grammar

/-!
# Members with and without a type

A member is a name with a parameter list, before which may stand a type.  The
type is one run of visible characters, whatever they are.  So a member has a type
exactly when behind its first run of visible characters white space, a name and a
parameter list follow.
-/

namespace TestScribe.Header

open TestScribe.Source TestScribe.Text Grammar

namespace Grammar

/-- A run of visible characters, and behind white space a name with its
parameters. -/
def typed
    (run name raw : List Char) :
    Language Char :=
  visibleRun run * (gap * (word name * (spaces * parameterList raw)))

end Grammar

variable
    {text run name raw front : List Char}
    {signature : Signature}

/-! ## A run and what it is the type of -/

theorem startsWith_white_typing
    (name raw : List Char) :
    StartsWith (isWhitespace · = true)
      (gap * (word name * (spaces * parameterList raw))) :=
  (startsWith_gap fun _ => id).mul _

theorem begins_typed_iff :
    Begins (typed run name raw) text ↔
      run = text.takeWhile (!isWhitespace ·) ∧
        ∃ behind,
          afterGap? (text.dropWhile (!isWhitespace ·)) = some behind ∧
            ∃ rest, namedParameters? behind = some ((name, raw), rest) := by
  have nameVisible :
      StartsWith Visible (word name * (spaces * parameterList raw)) :=
    (startsWith_word
      (fun _ => isWhitespace_eq_false_of_isWordCharacter) name).mul _
  rw [typed, begins_visibleRun_mul_iff (startsWith_white_typing name raw),
    begins_gap_mul_iff nameVisible]
  simp only [begins_heading_iff]

/-- A type, a name and a list begin where they are written. -/
theorem begins_typed
    {between white : List Char}
    (solid : ∀ character ∈ run, isWhitespace character = false)
    (isGap : between ∈ gap)
    (isName : IsName name)
    (allWhite : ∀ character ∈ white, isWhitespace character = true)
    (noClosing : ')' ∉ raw)
    (rest : List Char) :
    Begins (typed run name raw)
      (run ++ (between ++
        (name ++ (white ++ '(' :: (raw ++ ')' :: rest))))) := by
  have nameRead :=
    namedParameters?_append white isName allWhite noClosing rest
  refine begins_mul_iff.mpr ⟨run, ⟨rfl, solid⟩, _, rfl, ?_⟩
  refine begins_mul_iff.mpr ⟨between, isGap, _, rfl, ?_⟩
  exact begins_heading_iff.mpr ⟨rest, nameRead⟩

/-- Visible characters in front belong to the run. -/
theorem begins_typed_append_iff
    (solid : ∀ character ∈ front, isWhitespace character = false) :
    Begins (typed run name raw) (front ++ text) ↔
      ∃ behind,
        run = front ++ behind ∧ Begins (typed behind name raw) text := by
  have visible :
      ∀ character ∈ front, (!isWhitespace character) = true := by
    simpa using solid
  simp only [begins_typed_iff, List.takeWhile_append_of_pos visible,
    List.dropWhile_append_of_pos visible]
  constructor
  · rintro ⟨rfl, read⟩
    exact ⟨_, rfl, rfl, read⟩
  · rintro ⟨_, rfl, rfl, read⟩
    exact ⟨rfl, read⟩

/-- The run ends before white space, and so does the type when no name and list
follow there. -/
theorem not_begins_typed_of_gap
    {space : Char}
    {behind : List Char}
    (solid : ∀ character ∈ front, isWhitespace character = false)
    (white : isWhitespace space = true)
    (unread : namedParameters? (afterSpaces behind) = none) :
    ¬ Begins (typed run name raw) (front ++ space :: behind) := by
  rw [begins_typed_append_iff solid]
  rintro ⟨_, -, begins⟩
  rcases begins_typed_iff.mp begins with ⟨-, rest, gapRead, _, nameRead⟩
  rw [List.dropWhile_cons_of_neg (by simp [white]), afterGap?,
    if_pos white, Option.some.injEq] at gapRead
  rw [← gapRead, unread] at nameRead
  exact Option.some_ne_none _ nameRead.symm

/-- In particular when a character that belongs to no name stands before the next
parenthesis. -/
theorem not_begins_typed_of_stop
    {space stop : Char}
    {before : List Char}
    (solid : ∀ character ∈ front, isWhitespace character = false)
    (white : isWhitespace space = true)
    (noOpening : '(' ∉ before)
    (outside : OutsideWord stop)
    (visible : Visible stop)
    (differs : stop ≠ '(')
    (rest : List Char) :
    ¬ Begins (typed run name raw)
        (front ++ space :: (before ++ stop :: rest)) := by
  have trimmedPlain : '(' ∉ trimStart before := fun member =>
    noOpening ((trimStart_isSuffix before).subset member)
  have behind :
      afterSpaces (before ++ stop :: rest) =
        trimStart before ++ stop :: rest :=
    trimStart_append_cons visible before rest
  apply not_begins_typed_of_gap solid white
  rw [behind]
  exact
    namedParameters?_append_cons_eq_none trimmedPlain outside visible
      differs rest

/-! ## Reading members -/

theorem typedMember?_eq_some_iff :
    typedMember? text = some signature ↔
      ∃ type name raw,
        type ≠ [] ∧ Begins (typed type name raw) text ∧
          signature = (Signature.ofRaw name raw).withReturnType type := by
  simp only [typedMember?, Option.bind_eq_bind, Option.bind_eq_some_iff,
    Option.ite_none_left_eq_some, Prod.exists, begins_typed_iff,
    List.isEmpty_iff]
  constructor
  · rintro ⟨behind, gapRead, nonempty, name, raw, rest, nameRead, found⟩
    cases found
    exact
      ⟨_, name, raw, nonempty, ⟨rfl, behind, gapRead, rest, nameRead⟩, rfl⟩
  · rintro
      ⟨_, name, raw, nonempty, ⟨rfl, behind, gapRead, rest, nameRead⟩, rfl⟩
    exact ⟨behind, gapRead, nonempty, name, raw, rest, nameRead, rfl⟩

/-- A member with a type is read with it. -/
theorem member?_of_typed
    (nonempty : run ≠ [])
    (begins : Begins (typed run name raw) text) :
    member? text =
      some ((Signature.ofRaw name raw).withReturnType run) := by
  rw [member?,
    typedMember?_eq_some_iff.mpr ⟨run, name, raw, nonempty, begins, rfl⟩,
    Option.some_or]

theorem untypedMember?_append
    (isName : IsName name)
    (noClosing : ')' ∉ raw)
    (rest : List Char) :
    untypedMember? (name ++ '(' :: (raw ++ ')' :: rest)) =
      some
        ((Signature.ofRaw name raw).withReturnType
          defaultReturnType.toList) := by
  have nameRead :
      namedParameters? (name ++ '(' :: (raw ++ ')' :: rest)) =
        some ((name, raw), rest) :=
    namedParameters?_append [] isName (List.forall_mem_nil _) noClosing rest
  rw [untypedMember?, nameRead]
  rfl

/-- A member is read without a type when no run can be its type. -/
theorem member?_of_untyped
    (untyped : ∀ run name raw, ¬ Begins (typed run name raw) text) :
    member? text = untypedMember? text := by
  have unread : typedMember? text = none := by
    rw [Option.eq_none_iff_forall_ne_some]
    intro signature read
    rcases typedMember?_eq_some_iff.mp read with
      ⟨run, name, raw, -, begins, -⟩
    exact untyped run name raw begins
  rw [member?, unread, Option.none_or]

end TestScribe.Header
