import TestScribe.Proofs.Header.DefinitionHeading
import TestScribe.Proofs.Header.FunctionHeading
import TestScribe.Proofs.Header.MethodHeading
import TestScribe.Proofs.Locate.Extract

/-!
# Written functions are located

A function is written as a header line and the lines of its block, among any
other lines.  If no line of the block is a header itself, and the block measured
from the header is just this one, then the function is innermost at every line
of the block.  Each kind of written header with a body that suits it is such a
block, so it is located from every line in it, with its name, its parameters
and its extent.
-/

namespace TestScribe.Locate

open TestScribe.Block TestScribe.Header TestScribe.Source TestScribe.Text

/-! ## A block among other lines -/

/-- A standing candidate with no header below its own is innermost. -/
theorem Candidate.Encloses.isInnermost_of_undeclared
    {candidate : Candidate}
    {header : HeaderKind}
    {block : BlockKind}
    {lines : List Line}
    {cursor : Nat}
    (encloses : candidate.Encloses header block lines cursor)
    (undeclared :
      ∀ position, candidate.startLine < position →
        position ≤ candidate.endLine →
          lines[position]?.bind header.signature? = none) :
    candidate.IsInnermost header block lines cursor := by
  refine ⟨encloses, ?_⟩
  intro other otherEncloses
  rcases Nat.lt_or_ge candidate.startLine other.startLine with
    below | notBelow
  · have absent :=
      undeclared other.startLine below
        (Nat.le_trans otherEncloses.start_le encloses.le_last)
    rw [otherEncloses.declared] at absent
    exact nomatch absent
  · exact notBelow

/--
A header line with the lines of its block below it, before `after`: the
strategy reads the signature from the header, measures these lines and finds no
other header in them.
-/
structure Strategy.Holds
    (strategy : Strategy)
    (signature : Signature)
    (headerLine : Line)
    (below after : List Line) : Prop where
  declared :
    strategy.header.signature? headerLine = some signature
  measured :
    strategy.block.extent headerLine (below ++ after) = below.length
  undeclared :
    ∀ line ∈ below, strategy.header.signature? line = none
  unbroken : ∀ line ∈ headerLine :: below, '\n' ∉ line

section Holds

variable
    {strategy : Strategy}
    {signature : Signature}
    {headerLine : Line}
    {before below after : List Line}
    {cursor : Nat}

theorem drop_header
    (before below : List Line)
    (headerLine : Line) :
    (before ++ headerLine :: below).drop (before.length + 1) =
      below := by
  simp [List.drop_append]

/-- The candidate of a block is innermost from every line of the block. -/
theorem Strategy.Holds.isInnermost
    (holds : strategy.Holds signature headerLine below after)
    (start_le : before.length ≤ cursor)
    (le_last : cursor ≤ before.length + below.length) :
    (Candidate.mk signature before.length
        (before.length + below.length)).IsInnermost
      strategy.header strategy.block
      (before ++ headerLine :: (below ++ after)) cursor := by
  have present :
      (before ++ headerLine :: (below ++ after))[before.length]? =
        some headerLine := by
    simp
  have stands :=
    Candidate.standsIn_of_declared strategy.block present holds.declared
  rw [drop_header, holds.measured] at stands
  apply Candidate.Encloses.isInnermost_of_undeclared
    ⟨stands, start_le, le_last⟩
  intro position isBelow inside
  change before.length < position at isBelow
  change position ≤ before.length + below.length at inside
  have index :
      (before ++ headerLine :: (below ++ after))[position]? =
        below[position - (before.length + 1)]? := by
    have shifted :
        before.length + 1 + (position - (before.length + 1)) =
          position := by
      omega
    calc
      (before ++ headerLine :: (below ++ after))[position]? =
          ((before ++ headerLine :: (below ++ after)).drop
            (before.length + 1))[position - (before.length + 1)]? := by
        rw [List.getElem?_drop, shifted]
      _ = (below ++ after)[position - (before.length + 1)]? := by
        rw [drop_header]
      _ = below[position - (before.length + 1)]? :=
        List.getElem?_append_left (by omega)
  rw [index, Option.bind_eq_none_iff]
  intro line isLine
  exact holds.undeclared line (List.mem_of_getElem? isLine)

/-- A strategy locates a block from every line of the block. -/
theorem Strategy.Holds.extract_eq
    (holds : strategy.Holds signature headerLine below after)
    (unbrokenBefore : ∀ line ∈ before, '\n' ∉ line)
    (unbrokenAfter : ∀ line ∈ after, '\n' ∉ line)
    (start_le : before.length ≤ cursor)
    (le_last : cursor ≤ before.length + below.length)
    (language : String) :
    strategy.extract
        (String.ofList
          (joinLines (before ++ headerLine :: (below ++ after))))
        cursor language =
      some
        { name := signature.name
          code := String.ofList (joinLines (headerLine :: below))
          startLine := before.length
          endLine := before.length + below.length
          language := language
          parameters := signature.parameters
          returnType := signature.returnType } := by
  have lines :
      linesOf
          (joinLines (before ++ headerLine :: (below ++ after))) =
        before ++ headerLine :: (below ++ after) := by
    apply linesOf_joinLines
    · simp
    · intro line member
      simp only [List.mem_append, List.mem_cons] at member
      rcases member with inBefore | isHeader | inBelow | inAfter
      · exact unbrokenBefore line inBefore
      · exact holds.unbroken line (isHeader ▸ List.mem_cons_self)
      · exact holds.unbroken line (List.mem_cons_of_mem _ inBelow)
      · exact unbrokenAfter line inAfter
  have present :
      (before ++ headerLine :: (below ++ after))[before.length]? =
        some headerLine := by
    simp
  have excerpt :
      linesBetween (before ++ headerLine :: (below ++ after))
          before.length (before.length + below.length) =
        headerLine :: below := by
    rw [linesBetween_eq_cons present, drop_header, List.take_left]
  rw [Strategy.extract_eq_some_iff, String.toList_ofList, lines]
  refine ⟨_, holds.isInnermost start_le le_last, ?_⟩
  rw [Candidate.recordIn, excerpt]

end Holds

/-! ## Written functions -/

/-- Lines below a header that are no headers themselves. -/
structure IsBody
    (header : HeaderKind)
    (body : List Line) : Prop where
  unbroken : ∀ line ∈ body, '\n' ∉ line
  undeclared : ∀ line ∈ body, header.signature? line = none

instance (header : HeaderKind) (body : List Line) :
    Decidable (IsBody header body) :=
  decidable_of_iff
    ((∀ line ∈ body, '\n' ∉ line) ∧
      ∀ line ∈ body, header.signature? line = none)
    ⟨fun ⟨unbroken, undeclared⟩ => ⟨unbroken, undeclared⟩,
      fun isBody => ⟨isBody.unbroken, isBody.undeclared⟩⟩

/--
The header line of a written function and the lines of its block below it, with
`after` following.  A block between braces ends with its closing line.  A block
by indentation ends where the text does, or before a line that is not blank and
is not indented deeper than the header.
-/
inductive IsWritten
    (language : String)
    (after : List Line) :
    Heading → Option String → Line → List Line → Prop where
  | function
      (heading : FunctionHeading)
      (body : List Line)
      (closingIndent : List Char)
      (notPython : language ≠ "python")
      (notJava : language ≠ "java")
      (isBody : IsBody .declaration body)
      (isBraceBody : IsBraceBody body)
      (isIndent : IsIndent closingIndent) :
      IsWritten language after heading.toHeading none heading.line
        (body ++ [closingIndent ++ ['}']])
  | method
      (heading : MethodHeading)
      (body : List Line)
      (closingIndent : List Char)
      (isJava : language = "java")
      (isBody : IsBody .method body)
      (isBraceBody : IsBraceBody body)
      (isIndent : IsIndent closingIndent) :
      IsWritten language after heading.toHeading
        (some (String.ofList heading.type)) heading.line
        (body ++ [closingIndent ++ ['}']])
  | definition
      (heading : DefinitionHeading)
      (body : List Line)
      (isPython : language = "python")
      (isBody : IsBody .definition body)
      (deeper :
        ∀ line ∈ body, isBlank line = false →
          heading.indent.length < indentation line)
      (stops :
        ∀ line ∈ after.head?,
          isBlank line = false ∧
            indentation line ≤ heading.indent.length) :
      IsWritten language after heading.toHeading none heading.line body

theorem braceDelta_closing
    {indent : List Char}
    (isIndent : IsIndent indent) :
    braceDelta (indent ++ ['}']) = -1 := by
  rw [braceDelta_append, braceDelta_of_white isIndent.white]
  decide

/-- A header, a body and a closing line are a block between braces. -/
theorem Strategy.holds_closing
    {strategy : Strategy}
    {signature : Signature}
    {headerLine : Line}
    {body : List Line}
    {closingIndent : List Char}
    (braces : strategy.block = .braces)
    (declared :
      strategy.header.signature? headerLine = some signature)
    (headerUnbroken : '\n' ∉ headerLine)
    (opens : braceDelta headerLine = 1)
    (isBody : IsBody strategy.header body)
    (isBraceBody : IsBraceBody body)
    (isIndent : IsIndent closingIndent)
    (closingUndeclared :
      strategy.header.signature? (closingIndent ++ ['}']) = none)
    (after : List Line) :
    strategy.Holds signature headerLine
      (body ++ [closingIndent ++ ['}']]) after where
  declared := declared
  measured := by
    have size :=
      braceExtent_append_closing opens isBraceBody
        (braceDelta_closing isIndent) after
    rw [braces, List.append_assoc, List.length_append,
      List.length_singleton]
    exact size
  undeclared := by
    intro line member
    rcases List.mem_append.mp member with inBody | isClosing
    · exact isBody.undeclared line inBody
    · rw [List.mem_singleton.mp isClosing]
      exact closingUndeclared
  unbroken := by
    intro line member
    rcases List.mem_cons.mp member with isHeader | isBelow
    · rw [isHeader]
      exact headerUnbroken
    · rcases List.mem_append.mp isBelow with inBody | isClosing
      · exact isBody.unbroken line inBody
      · rw [List.mem_singleton.mp isClosing, List.mem_append, not_or]
        exact ⟨isIndent.unbroken, by decide⟩

/-- The strategy of the language tag finds a written function to be a block. -/
theorem IsWritten.holds
    {language : String}
    {after below : List Line}
    {heading : Heading}
    {returnType : Option String}
    {headerLine : Line}
    (written :
      IsWritten language after heading returnType headerLine below) :
    (strategyOf language).Holds (heading.signature returnType)
      headerLine below after := by
  cases written with
  | function heading body closingIndent notPython notJava isBody
      isBraceBody isIndent =>
      have curly : strategyOf language = .curlyFunction := by
        rw [strategyOf, if_neg notPython, if_neg notJava]
      rw [curly]
      apply Strategy.holds_closing rfl
      · exact heading.declaration?_line
      · exact heading.lineFeed_not_mem_line
      · exact heading.braceDelta_line
      · exact isBody
      · exact isBraceBody
      · exact isIndent
      · exact declaration?_closing isIndent
  | method heading body closingIndent isJava isBody isBraceBody
      isIndent =>
      subst isJava
      apply Strategy.holds_closing rfl
      · exact heading.method?_line
      · exact heading.lineFeed_not_mem_line
      · exact heading.braceDelta_line
      · exact isBody
      · exact isBraceBody
      · exact isIndent
      · exact method?_closing isIndent
  | definition heading body isPython isBody deeper stops =>
      subst isPython
      constructor
      · exact heading.definition?_line
      · apply indentExtent_append
        · intro line member
          rw [heading.indentation_line, continuesBlock_iff]
          exact deeper line member
        · intro line isFirst
          rcases stops line isFirst with ⟨notBlank, shallow⟩
          rw [heading.indentation_line]
          simp [continuesBlock, notBlank, shallow]
      · exact isBody.undeclared
      · intro line member
        rcases List.mem_cons.mp member with isHeader | inBody
        · rw [isHeader]
          exact heading.lineFeed_not_mem_line
        · exact isBody.unbroken line inBody

/--
A written function among any other lines is located from every line of its
block, with exactly its name, its parameters and its extent.
-/
theorem extract_written
    {language : String}
    {before below after : List Line}
    {heading : Heading}
    {returnType : Option String}
    {headerLine : Line}
    {cursor : Nat}
    (written :
      IsWritten language after heading returnType headerLine below)
    (unbrokenBefore : ∀ line ∈ before, '\n' ∉ line)
    (unbrokenAfter : ∀ line ∈ after, '\n' ∉ line)
    (start_le : before.length ≤ cursor)
    (le_last : cursor ≤ before.length + below.length) :
    extract
        (String.ofList
          (joinLines (before ++ headerLine :: (below ++ after))))
        cursor language =
      some
        { name := String.ofList heading.name
          code := String.ofList (joinLines (headerLine :: below))
          startLine := before.length
          endLine := before.length + below.length
          language := language
          parameters := heading.parameters.map String.ofList
          returnType := returnType } := by
  rw [extract_eq_strategyOf_extract]
  exact
    written.holds.extract_eq unbrokenBefore unbrokenAfter start_le
      le_last language

/-- A function, a method and a definition, each from a line of its body. -/
theorem extract_written_nested :
    extract
        "x;\n export async function f(a, b) \x7b\n if (a) \x7b\n \x7d\n \x7d\ny;"
        3 "javascript" =
      some
        ⟨"f",
          " export async function f(a, b) \x7b\n if (a) \x7b\n \x7d\n \x7d",
          1, 4, "javascript", ["a", "b"], none⟩ ∧
    extract
        "A \x7b\n\tpublic static List<T> g(int a) \x7b\n if (a) \x7b\n \x7d\n\t\x7d\n\x7d"
        2 "java" =
      some
        ⟨"g",
          "\tpublic static List<T> g(int a) \x7b\n if (a) \x7b\n \x7d\n\t\x7d",
          1, 4, "java", ["int a"], some "List<T>"⟩ ∧
    extract "x\n  async def h(a):\n\n    b\n y" 3 "python" =
      some
        ⟨"h", "  async def h(a):\n\n    b", 1, 3, "python", ["a"],
          none⟩ := by
  refine ⟨?_, ?_, ?_⟩
  · have written :
        IsWritten "javascript" ["y;".toList]
          ⟨"f".toList, ["a".toList, "b".toList], by decide, by decide⟩
          none " export async function f(a, b) \x7b".toList
          [" if (a) \x7b".toList, " \x7d".toList, " \x7d".toList] :=
      .function
        ⟨⟨"f".toList, ["a".toList, "b".toList], by decide, by decide⟩,
          " ".toList, true, true, by decide, by decide⟩
        [" if (a) \x7b".toList, " \x7d".toList] " ".toList
        (by decide) (by decide) (by decide) (by decide) (by decide)
    have before : ∀ line ∈ ["x;".toList], '\n' ∉ line := by
      decide
    have start_le : ["x;".toList].length ≤ 3 := by
      decide
    have located :=
      extract_written written before (by decide) start_le (by decide)
    exact located
  · have written :
        IsWritten "java" ["\x7d".toList]
          ⟨"g".toList, ["int a".toList], by decide, by decide⟩
          (some "List<T>")
          "\tpublic static List<T> g(int a) \x7b".toList
          [" if (a) \x7b".toList, " \x7d".toList, "\t\x7d".toList] :=
      .method
        ⟨⟨"g".toList, ["int a".toList], by decide, by decide⟩,
          "\t".toList, "public", ["static"], "List<T>".toList,
          by decide, by decide, by decide, by decide⟩
        [" if (a) \x7b".toList, " \x7d".toList] "\t".toList
        rfl (by decide) (by decide) (by decide)
    have before : ∀ line ∈ ["A \x7b".toList], '\n' ∉ line := by
      decide
    have start_le : ["A \x7b".toList].length ≤ 2 := by
      decide
    have located :=
      extract_written written before (by decide) start_le (by decide)
    exact located
  · have written :
        IsWritten "python" [" y".toList]
          ⟨"h".toList, ["a".toList], by decide, by decide⟩ none
          "  async def h(a):".toList ["".toList, "    b".toList] :=
      .definition
        ⟨⟨"h".toList, ["a".toList], by decide, by decide⟩,
          "  ".toList, true, by decide⟩
        ["".toList, "    b".toList]
        rfl (by decide) (by decide) (by decide)
    have before : ∀ line ∈ ["x".toList], '\n' ∉ line := by
      decide
    have start_le : ["x".toList].length ≤ 3 := by
      decide
    have located :=
      extract_written written before (by decide) start_le (by decide)
    exact located

end TestScribe.Locate
