import TestScribe.Locate.FunctionRecord
/-!
# Locating strategies

A strategy finds the function around a cursor for a family of languages.  An
extractor is any way of finding one, and every strategy is an extractor.
-/

namespace TestScribe.Locate

open TestScribe.Source

/-- The families of languages that functions are located in. -/
inductive Strategy where
  /-- Functions between braces. -/
  | curlyFunction
  /-- Definitions whose block is indented. -/
  | indentation
  /-- Methods that spell out their access modifier. -/
  | accessModifier
  deriving DecidableEq

/-- The name under which a strategy is shown. -/
def Strategy.name : Strategy → String
  | .curlyFunction => "curly-function"
  | .indentation => "indentation"
  | .accessModifier => "access-modifier"

/-- The strategy shown under a name. -/
def Strategy.ofName? (name : String) : Option Strategy :=
  [.curlyFunction, .indentation, .accessModifier].find? (·.name == name)

/-- The kind of header that a strategy looks for. -/
def Strategy.header : Strategy → HeaderKind
  | .curlyFunction => .declaration
  | .indentation => .definition
  | .accessModifier => .method

/-- The kind of block that follows a header under a strategy. -/
def Strategy.block : Strategy → BlockKind
  | .curlyFunction => .braces
  | .indentation => .indentation
  | .accessModifier => .braces

/-- The function around the line at position `cursor`, if there is one.  The
language tag is copied into the record. -/
def Strategy.extract (strategy : Strategy) (source : String) (cursor : Nat)
    (language : String) : Option FunctionRecord :=
  let lines := linesOf source.toList
  (enclosing? strategy.header strategy.block lines cursor).bind
    (·.record? lines language)

/-- A way of locating functions, with the name under which it is shown. -/
structure Extractor where
  name : String
  /-- The function around the line at a position of a source text, if there is one,
  for a language tag. -/
  extract : String → Nat → String → Option FunctionRecord

/-- The extractor that follows a strategy. -/
def Strategy.extractor (strategy : Strategy) : Extractor where
  name := strategy.name
  extract := strategy.extract

instance : Coe Strategy Extractor :=
  ⟨Strategy.extractor⟩

end TestScribe.Locate
