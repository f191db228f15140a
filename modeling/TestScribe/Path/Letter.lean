import TestScribe.Text.Utf8
/-!
# What paths are written with

A file system keeps paths as bytes, and names need not be text.  Where all of them
are, a path can as well be taken as characters.  What is said of paths is said of
both.
-/

namespace TestScribe.Path

open TestScribe.Text

/-- What paths are written with. -/
class PathLetter (α : Type) where
  /-- The letter between the segments of a path. -/
  slash : α
  dot : α
  /-- A text as it stands in a path. -/
  ofText : List Char → List α
  /-- The text that is shown for a name. -/
  shown : List α → List Char

export PathLetter (slash dot ofText shown)

/-- Characters are shown as they are. -/
instance : PathLetter Char where
  slash := '/'
  dot := '.'
  ofText := id
  shown := id

/-- A text stands in a path as its UTF-8 bytes; where bytes are no text, U+FFFD is
shown. -/
instance : PathLetter UInt8 where
  slash := 0x2F
  dot := 0x2E
  ofText text := text.flatMap String.utf8EncodeChar
  shown bytes := (decodeLenient ⟨bytes.toArray⟩).toList

end TestScribe.Path
