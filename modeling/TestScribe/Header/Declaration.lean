import TestScribe.Header.Reading
import TestScribe.Source.Lines
import TestScribe.Source.Signature
/-!
# Declarations in brace languages

Four forms of line declare a function here.  They are tried in this order, on
the trimmed line, each at its leftmost occurrence:

1. `[export] [async] function NAME(PARAMETERS)`
2. `[export] const NAME = (PARAMETERS) [: type] =>`, or the same with
   `function (PARAMETERS)` in place of the arrow's left side
3. `NAME: function (PARAMETERS)` or `NAME: (PARAMETERS) [: type] =>`
4. `[async] NAME(PARAMETERS) [: type] {`

A form whose name is a control keyword does not count, and the next is tried.
-/

namespace TestScribe.Header

open TestScribe.Source TestScribe.Text

/-- A name and the raw text of its parameter list. -/
structure NamedParameters where
  name : List Char
  /-- What stands between the parentheses. -/
  parameters : List Char

/-- Form 1: the keyword `function`, a name and a parameter list. -/
def functionForm? (text : List Char) : Option NamedParameters := do
  let text := afterOptionalKeyword "async" (afterOptionalKeyword "export" text)
  let ((name, parameters), _) ← namedParameters? (← afterKeyword? "function" text)
  return ⟨name, parameters⟩

/-- The parameter list of an arrow function: in parentheses, then an optional
type without an equals sign, then the arrow. -/
def arrowParameters? (text : List Char) : Option (List Char) := do
  let (parameters, rest) ← parenthesized? text
  let rest := afterSpaces rest
  let arrow :=
    match rest with
    | ':' :: typing => typing.dropWhile (· != '=')
    | _ => rest
  let _ ← afterText? "=>" arrow
  return parameters

/-- The parameter list of an anonymous `function`. -/
def anonymousParameters? (text : List Char) : Option (List Char) := do
  let rest ← afterText? "function" text
  let (parameters, _) ← parenthesized? (afterSpaces rest)
  return parameters

/-- The parameter list of a function value, written either way. -/
def functionValueParameters? (text : List Char) : Option (List Char) :=
  (arrowParameters? text).or (anonymousParameters? text)

/-- Form 2: a constant bound to a function value. -/
def constantForm? (text : List Char) : Option NamedParameters := do
  let text := afterOptionalKeyword "export" text
  let (name, rest) ← word? (← afterKeyword? "const" text)
  let rest ← afterText? "=" (afterSpaces rest)
  let parameters ← functionValueParameters? (afterSpaces rest)
  return ⟨name, parameters⟩

/-- Form 3: a property whose value is a function. -/
def propertyForm? (text : List Char) : Option NamedParameters := do
  let (name, rest) ← word? text
  let rest ← afterText? ":" (afterSpaces rest)
  let parameters ← functionValueParameters? (afterSpaces rest)
  return ⟨name, parameters⟩

/-- May the character stand in the return type of form 4? -/
def isTypeCharacter (character : Char) : Bool :=
  !(['(', ')', '{', '}', ';', '='].contains character)

/-- Does the text open a body: a brace, before which may stand a colon and a
return type that is not empty? -/
def opensBody (text : List Char) : Bool :=
  match afterSpaces text with
  | '{' :: _ => true
  | ':' :: typing =>
    !(typing.takeWhile isTypeCharacter).isEmpty
      && (typing.dropWhile isTypeCharacter).head? == some '{'
  | _ => false

/-- A name and a parameter list that are followed by a body. -/
def namedParametersWithBody? (text : List Char) : Option NamedParameters := do
  let ((name, parameters), rest) ← namedParameters? text
  if opensBody rest then some ⟨name, parameters⟩ else none

/-- Form 4: a method of a class. -/
def methodForm? (text : List Char) : Option NamedParameters :=
  ((afterKeyword? "async" text).bind namedParametersWithBody?).or
    (namedParametersWithBody? text)

/-- The four forms, in the order in which they are tried. -/
def declarationForms : List (List Char → Option NamedParameters) :=
  [functionForm?, constantForm?, propertyForm?, methodForm?]

/-- Names that begin a control-flow statement and so declare nothing. -/
def controlKeywords : List String :=
  ["if", "for", "while", "switch", "catch", "with"]

/-- The signature that a line declares, if it declares a function. -/
def declaration? (line : Line) : Option Signature :=
  declarationForms.findSome? fun form =>
    ((leftmost? form (trim line)).map fun found =>
        Signature.ofRaw found.name found.parameters).filter
      fun signature => !controlKeywords.contains signature.name

end TestScribe.Header
