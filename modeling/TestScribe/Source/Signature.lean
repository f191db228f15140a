import TestScribe.Text.Whitespace
/-!
# Signatures

What a header line says about its function: the name, the parameters in
order, and for some languages a return type.
-/

namespace TestScribe.Source

open TestScribe.Text

/-- The name, parameters and return type that a header line declares. -/
structure Signature where
  name : String
  parameters : List String
  /-- The declared return type, for languages that spell one. -/
  returnType : Option String
  deriving DecidableEq

/-- The entries of a raw parameter list: its comma-separated pieces, trimmed,
without the blank ones. -/
def parameterEntries (raw : List Char) : List (List Char) :=
  ((raw.splitOn ',').map trim).filter (!·.isEmpty)

/-- The parameters that a raw parameter list names. -/
def splitParameters (raw : String) : List String :=
  (parameterEntries raw.toList).map String.ofList

/-- The signature with this name and this raw parameter list, without a return
type. -/
def Signature.ofRaw (name raw : List Char) : Signature where
  name := String.ofList name
  parameters := splitParameters (String.ofList raw)
  returnType := none

/-- The same signature with this return type. -/
def Signature.withReturnType (signature : Signature) (returnType : List Char) :
    Signature :=
  { signature with returnType := some (String.ofList returnType) }

end TestScribe.Source
