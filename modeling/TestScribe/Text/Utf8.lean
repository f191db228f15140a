/-!
# Bytes as text

Bytes from outside need not be UTF-8.  `decodeUnits` reads them as a list of
units: a character, or `none` for a stretch of bytes that begins no character.
A strict reader refuses any `none`; a lenient one shows it as U+FFFD.

The stretch is the longest start of a well-formed sequence, or one byte if
there is none, so that no more than one replacement is shown for a sequence
that was cut short.
-/

namespace TestScribe.Text

/-- A character, or `none` where bytes were not UTF-8. -/
abbrev TextUnit := Option Char

/-- Is this a continuation byte? -/
def isContinuation (byte : UInt8) : Bool :=
  0x80 ≤ byte && byte ≤ 0xBF

/-- May the second byte follow the lead byte in a well-formed sequence?  The
narrower ranges after E0, ED, F0 and F4 leave out overlong forms, surrogates
and numbers past the last code point. -/
def isSecondByte (lead second : UInt8) : Bool :=
  if lead == 0xE0 then 0xA0 ≤ second && second ≤ 0xBF
  else if lead == 0xED then 0x80 ≤ second && second ≤ 0x9F
  else if lead == 0xF0 then 0x90 ≤ second && second ≤ 0xBF
  else if lead == 0xF4 then 0x80 ≤ second && second ≤ 0x8F
  else isContinuation second

/-- The length of the sequence that a lead byte announces: zero for a byte
that is no lead byte. -/
def announcedLength (lead : UInt8) : Nat :=
  if lead < 0x80 then 1
  else if 0xC2 ≤ lead && lead ≤ 0xDF then 2
  else if 0xE0 ≤ lead && lead ≤ 0xEF then 3
  else if 0xF0 ≤ lead && lead ≤ 0xF4 then 4
  else 0

/-- The low six bits of a continuation byte. -/
def payload (byte : UInt8) : Nat :=
  byte.toNat % 0x40

/-- Read one unit from the front of a non-empty list of bytes, and say how many
bytes after the first belong to it. -/
def firstUnit (lead : UInt8) (rest : List UInt8) : TextUnit × Nat :=
  match announcedLength lead, rest with
  | 1, _ => (some (Char.ofNat lead.toNat), 0)
  | 2, b :: _ =>
    if isSecondByte lead b then
      (some (Char.ofNat (lead.toNat % 0x20 * 0x40 + payload b)), 1)
    else
      (none, 0)
  | 3, b :: rest =>
    if isSecondByte lead b then
      match rest with
      | c :: _ =>
        if isContinuation c then
          (some (Char.ofNat
            ((lead.toNat % 0x10 * 0x40 + payload b) * 0x40 + payload c)), 2)
        else
          (none, 1)
      | [] => (none, 1)
    else
      (none, 0)
  | 4, b :: rest =>
    if isSecondByte lead b then
      match rest with
      | c :: rest =>
        if isContinuation c then
          match rest with
          | d :: _ =>
            if isContinuation d then
              (some (Char.ofNat
                (((lead.toNat % 0x08 * 0x40 + payload b) * 0x40 + payload c) * 0x40
                  + payload d)), 3)
            else
              (none, 2)
          | [] => (none, 2)
        else
          (none, 1)
      | [] => (none, 1)
    else
      (none, 0)
  | _, _ => (none, 0)

/-- Read the bytes as units, skipping the first `skipped` of them, which
belong to the unit before. -/
def decodeUnitsFrom : Nat → List UInt8 → List TextUnit
  | _, [] => []
  | skipped + 1, _ :: rest => decodeUnitsFrom skipped rest
  | 0, lead :: rest =>
    let (unit, further) := firstUnit lead rest
    unit :: decodeUnitsFrom further rest

/-- The bytes as characters and undecodable stretches. -/
def decodeUnits (bytes : ByteArray) : List TextUnit :=
  decodeUnitsFrom 0 bytes.data.toList

/-- The bytes as text, if they are UTF-8 throughout. -/
def decodeStrict? (bytes : ByteArray) : Option String :=
  String.fromUTF8? bytes

/-- The bytes as text, with U+FFFD for each undecodable stretch. -/
def decodeLenient (bytes : ByteArray) : String :=
  String.ofList ((decodeUnits bytes).map (·.getD '\uFFFD'))

end TestScribe.Text
