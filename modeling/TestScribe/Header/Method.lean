import TestScribe.Header.Reading
import TestScribe.Source.Lines
import TestScribe.Source.Signature
/-!
# Methods with an access modifier

A method is written `MODIFIER (keyword )* [TYPE] NAME(PARAMETERS)`, anywhere on
its line.  As many keywords as possible are read as keywords; when no method
follows them, the last of them is tried as the type or the name instead, then
the last two, and so on.
-/

namespace TestScribe.Header

open TestScribe.Source TestScribe.Text

/-- The words that open a method. -/
def accessModifiers : List String :=
  ["public", "private", "protected"]

/-- The words that may stand between the access modifier and the type. -/
def keywordModifiers : List String :=
  ["static", "final", "abstract", "synchronized", "native"]

/-- The return type of a method that spells none. -/
def defaultReturnType : String :=
  "void"

/-- What follows one of the keywords and the white space after it. -/
def afterAnyKeyword? (keywords : List String) (text : List Char) :
    Option (List Char) :=
  keywords.findSome? (afterKeyword? · text)

/-- A type token, white space, a name and a parameter list. -/
def typedMember? (text : List Char) : Option Signature := do
  let type := text.takeWhile (!isWhitespace ·)
  let rest ← afterGap? (text.dropWhile (!isWhitespace ·))
  if type.isEmpty then
    none
  else
    let ((name, parameters), _) ← namedParameters? rest
    return (Signature.ofRaw name parameters).withReturnType type

/-- A name and a parameter list, without a type. -/
def untypedMember? (text : List Char) : Option Signature := do
  let ((name, parameters), _) ← namedParameters? text
  return (Signature.ofRaw name parameters).withReturnType defaultReturnType.toList

/-- A member with its type if there is one to read, otherwise without. -/
def member? (text : List Char) : Option Signature :=
  (typedMember? text).or (untypedMember? text)

/-- A member after as many keyword modifiers as can be read; `rounds` bounds
their number. -/
def modifiedMember? : Nat → List Char → Option Signature
  | 0, text => member? text
  | rounds + 1, text =>
    match afterAnyKeyword? keywordModifiers text with
    | some rest => (modifiedMember? rounds rest).or (member? text)
    | none => member? text

/-- An access modifier and the member after it, at the front of the text. -/
def methodHeader? (text : List Char) : Option Signature := do
  let rest ← afterAnyKeyword? accessModifiers text
  modifiedMember? rest.length rest

/-- The signature at the leftmost method on a line. -/
def method? (line : Line) : Option Signature :=
  leftmost? methodHeader? line

end TestScribe.Header
