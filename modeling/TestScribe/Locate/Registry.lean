import TestScribe.Locate.Strategy
import TestScribe.Text.Quoted
/-!
# The registry of language tags

A registry says which extractor serves a language tag, and which one serves all
tags that nobody registered.  Registrations are never replaced.
-/

namespace TestScribe.Locate

open TestScribe.Text

/-- Language tags with their extractors, in the order of registration, and the
extractor for every other tag. -/
structure Registry where
  /-- The registered tags with their extractors, oldest first. -/
  entries : List (String × Extractor)
  /-- The extractor for tags that are not registered. -/
  fallback : Extractor

/-- The registry that sends every tag to one extractor. -/
def Registry.empty (fallback : Extractor) : Registry :=
  ⟨[], fallback⟩

/-- Is the tag registered? -/
def Registry.isRegistered (registry : Registry) (tag : String) : Bool :=
  (registry.entries.lookup tag).isSome

/-- Register an extractor for a tag, unless the tag is registered already; the flag
says whether the registration was made. -/
def Registry.register (registry : Registry) (tag : String) (extractor : Extractor) :
    Registry × Bool :=
  if registry.isRegistered tag then
    (registry, false)
  else
    ({ registry with entries := registry.entries ++ [(tag, extractor)] }, true)

/-- Register the extractors for several tags, one after the other. -/
def Registry.registerAll (registry : Registry) (entries : List (String × Extractor)) :
    Registry :=
  entries.foldl (fun registry (tag, extractor) => (registry.register tag extractor).1)
    registry

/-- The extractor that serves a tag. -/
def Registry.resolve (registry : Registry) (tag : String) : Extractor :=
  (registry.entries.lookup tag).getD registry.fallback

/-- Does the UTF-8 form of the first text come before or equal that of the
second, byte by byte? -/
def utf8LessOrEqual (first second : String) : Bool :=
  first.toUTF8.data.toList ≤ second.toUTF8.data.toList

/-- The registered tags, in the order of their UTF-8 forms. -/
def Registry.tags (registry : Registry) : List String :=
  (registry.entries.map (·.1)).mergeSort utf8LessOrEqual

/-- The registry of the language tags that are known from the start. -/
def Registry.builtin : Registry :=
  (Registry.empty Strategy.curlyFunction).registerAll
    [("typescript", Strategy.curlyFunction), ("javascript", Strategy.curlyFunction),
      ("python", Strategy.indentation), ("java", Strategy.accessModifier)]

/-- The function around the line at position `cursor`, as the extractor for the
language tag finds it. -/
def Registry.extract (registry : Registry) (source : String) (cursor : Nat)
    (language : String) : Option FunctionRecord :=
  (registry.resolve language).extract source cursor language

/-- The registry on one line: its tags and its fallback. -/
def Registry.display (registry : Registry) : String :=
  "ExtractorRegistry \x7b tags: [" ++ ", ".intercalate (registry.tags.map quoted)
    ++ "], fallback: " ++ quoted registry.fallback.name ++ " \x7d"

/-- The registry over several lines: each part and each tag on a line of its own,
with a comma after it. -/
def Registry.displayLines (registry : Registry) : String :=
  let tags :=
    match registry.tags with
    | [] => "[]"
    | tags => "[\n" ++ String.join (tags.map fun tag => "        " ++ quoted tag ++ ",\n")
      ++ "    ]"
  "ExtractorRegistry \x7b\n    tags: " ++ tags ++ ",\n    fallback: "
    ++ quoted registry.fallback.name ++ ",\n\x7d"

/-- The function around the line at position `cursor`, found with the built-in
registry. -/
def extract (source : String) (cursor : Nat) (language : String) :
    Option FunctionRecord :=
  Registry.builtin.extract source cursor language

end TestScribe.Locate
