import TestScribe.Proofs.Locate.Extract

/-!
# Locating by positions

A text can be searched by the positions of its lines: a line is looked up, a run
of lines is cut out, positions are added, and braces are counted, all in numbers
of limited size.  Each of these steps can go wrong, and here each of them says
so.  None of them ever does, since a text holds no more braces than characters
and at most one line more.  So the search by positions always answers, and its
answer is that of the search through the lines in order.
-/

namespace TestScribe.Locate

open TestScribe.Block
open TestScribe.Source
open TestScribe.Text

/-! ## Steps that can go wrong -/

/-- What can go wrong in a search by positions. -/
inductive PositionFault where
  /-- There is no line at the position. -/
  | noLine (position : Nat)
  /-- The lines from one position to another are not all there. -/
  | noRun (first last : Nat)
  /-- A number of lines is too large, or would be less than none. -/
  | noCount
  /-- The braces are too many to be counted. -/
  | noDepth
  deriving DecidableEq

/-- The line at a position. -/
def lineAt
    (lines : List Line)
    (position : Nat) :
    Except PositionFault Line :=
  match lines[position]? with
  | some line => .ok line
  | none => .error (.noLine position)

/-- The lines from a position on, which may be the one behind the last line. -/
def linesFrom
    (lines : List Line)
    (first : Nat) :
    Except PositionFault (List Line) :=
  if first ≤ lines.length then
    .ok (lines.drop first)
  else
    .error (.noRun first lines.length)

/-- The lines from a position to another. -/
def linesThrough
    (lines : List Line)
    (first last : Nat) :
    Except PositionFault (List Line) :=
  match excerpt? lines first last with
  | some excerpt => .ok excerpt
  | none => .error (.noRun first last)

/-- A number of lines.  The limit is that of numbers with a sign, so without a
sign a number may be up to twice as large. -/
def countWithin
    (limit count : Nat) :
    Except PositionFault Nat :=
  if count < 2 * limit then .ok count else .error .noCount

/-- What is left of a number of lines. -/
def countWithout
    (count removed : Nat) :
    Except PositionFault Nat :=
  if removed ≤ count then .ok (count - removed) else .error .noCount

/-- A number of open braces, which may be negative. -/
def depthWithin
    (limit : Nat)
    (depth : Int) :
    Except PositionFault Int :=
  if -limit ≤ depth ∧ depth < limit then .ok depth else .error .noDepth

/-! ## The search -/

/-- The number of open braces behind a text, counted one by one. -/
def countBraces
    (limit : Nat) :
    Int → List Char → Except PositionFault Int
  | depth, [] => .ok depth
  | depth, character :: rest => do
      let depth ← depthWithin limit (depth + braceStep character)
      countBraces limit depth rest

/-- The number of lines before the one at which the running count is zero, if
there is one. -/
def balanceOffset?
    (limit : Nat) :
    Int → List Line → Except PositionFault (Option Nat)
  | _, [] => .ok none
  | depth, line :: below => do
      let change ← countBraces limit 0 line
      let depth ← depthWithin limit (depth + change)
      if depth = 0 then
        return some 0
      else
        return (← balanceOffset? limit depth below).map (· + 1)

/-- The position of the last line of a block between braces. -/
def braceEndAt
    (limit : Nat)
    (lines : List Line)
    (start : Nat) :
    Except PositionFault Nat := do
  let header ← lineAt lines start
  let depth ← countBraces limit 0 header
  if depth = 0 ∧ '}' ∈ header then
    return start
  else
    let next ← countWithin limit (start + 1)
    let below ← linesFrom lines next
    match ← balanceOffset? limit depth below with
    | some offset => countWithin limit (next + offset)
    | none => return lines.length - 1

/-- The position of the last line of a block by indentation. -/
def indentEndAt
    (limit : Nat)
    (lines : List Line)
    (start : Nat) :
    Except PositionFault Nat := do
  let header ← lineAt lines start
  let next ← countWithin limit (start + 1)
  let below ← linesFrom lines next
  match below.findIdx? (!continuesBlock (indentation header) ·) with
  | some offset => countWithin limit (start + offset)
  | none => return lines.length - 1

/-- The position of the last line of a block. -/
def BlockKind.endAt :
    BlockKind → Nat → List Line → Nat → Except PositionFault Nat
  | .braces => braceEndAt
  | .indentation => indentEndAt

/-- The candidate whose header is the line at a position. -/
def candidateAt?
    (limit : Nat)
    (header : HeaderKind)
    (block : BlockKind)
    (lines : List Line)
    (position : Nat) :
    Except PositionFault (Option Candidate) := do
  let line ← lineAt lines position
  match header.signature? line with
  | none => return none
  | some signature =>
      let last ← block.endAt limit lines position
      return some ⟨signature, position, last⟩

/-- The nearest candidate before a position whose block contains the cursor. -/
def scanBefore?
    (limit : Nat)
    (header : HeaderKind)
    (block : BlockKind)
    (lines : List Line)
    (cursor : Nat) :
    Nat → Except PositionFault (Option Candidate)
  | 0 => .ok none
  | position + 1 => do
      match ← candidateAt? limit header block lines position with
      | none => scanBefore? limit header block lines cursor position
      | some candidate =>
          if candidate.contains cursor then
            return some candidate
          else
            scanBefore? limit header block lines cursor position

/-- The nearest candidate at or above the cursor whose block contains it, from
the last line on if the cursor is below it. -/
def scanUpward?
    (limit : Nat)
    (header : HeaderKind)
    (block : BlockKind)
    (lines : List Line)
    (cursor : Nat) :
    Except PositionFault (Option Candidate) :=
  if lines = [] then
    .ok none
  else do
    let last ← countWithout lines.length 1
    scanBefore? limit header block lines cursor (min cursor last + 1)

/-- The record of a candidate, with the lines from its first to its last. -/
def Candidate.recordAt
    (candidate : Candidate)
    (lines : List Line)
    (language : String) :
    Except PositionFault FunctionRecord :=
  (linesThrough lines candidate.startLine candidate.endLine).map
    fun excerpt =>
      { name := candidate.signature.name
        code := String.ofList (joinLines excerpt)
        startLine := candidate.startLine
        endLine := candidate.endLine
        language := language
        parameters := candidate.signature.parameters
        returnType := candidate.signature.returnType }

/-- The function around the line at position `cursor`, searched by positions with
numbers below the limit.  Numbers of 64 bits have the limit `2 ^ 63`, and no text
in memory is that long. -/
def extractByPositions
    (limit : Nat)
    (source : String)
    (cursor : Nat)
    (language : String) :
    Except PositionFault (Option FunctionRecord) := do
  let strategy := strategyOf language
  let lines := linesOf source.toList
  match ← scanUpward? limit strategy.header strategy.block lines cursor with
  | none => return none
  | some candidate => return some (← candidate.recordAt lines language)

/-! ## Room for the numbers -/

/-- The lines hold fewer characters than the limit, and so do the positions. -/
structure Fits
    (limit : Nat)
    (lines : List Line) : Prop where
  characters : lines.flatten.length < limit
  positions : lines.length < 2 * limit

theorem fits_linesOf
    {limit : Nat}
    {text : List Char}
    (short : text.length < limit) :
    Fits limit (linesOf text) := by
  have nonempty : linesOf text ≠ [] :=
    List.splitOn_ne_nil '\n' text
  have size := length_joinLines nonempty
  rw [joinLines_linesOf] at size
  have someLine := List.length_pos_iff.mpr nonempty
  constructor <;> omega

/-! ## Nothing goes wrong -/

section NothingGoesWrong

variable
    {limit start : Nat}
    {depth : Int}
    {lines below : List Line}
    {line : Line}

theorem lineAt_eq_ok
    (present : lines[start]? = some line) :
    lineAt lines start = .ok line := by
  rw [lineAt, present]

theorem linesFrom_eq_ok
    {first : Nat}
    (inside : first ≤ lines.length) :
    linesFrom lines first = .ok (lines.drop first) := by
  rw [linesFrom, if_pos inside]

theorem countWithin_eq_ok
    {count : Nat}
    (small : count < 2 * limit) :
    countWithin limit count = .ok count := by
  rw [countWithin, if_pos small]

theorem depthWithin_eq_ok
    (small : depth.natAbs < limit) :
    depthWithin limit depth = .ok depth := by
  rw [depthWithin, if_pos]
  omega

/-- One character changes the number of open braces by at most one. -/
theorem natAbs_braceStep_le
    (character : Char) :
    (braceStep character).natAbs ≤ 1 := by
  rw [braceStep]
  split
  · decide
  · split <;> decide

theorem natAbs_braceDelta_le
    (text : List Char) :
    (braceDelta text).natAbs ≤ text.length := by
  induction text with
  | nil => decide
  | cons character text ih =>
      have step := natAbs_braceStep_le character
      rw [braceDelta_cons, List.length_cons]
      omega

/-- Braces can be counted where the limit leaves room for every character. -/
theorem countBraces_eq_ok
    {text : List Char}
    (room : depth.natAbs + text.length < limit) :
    countBraces limit depth text = .ok (depth + braceDelta text) := by
  induction text generalizing depth with
  | nil => rw [countBraces, braceDelta_nil, Int.add_zero]
  | cons character text ih =>
      have step := natAbs_braceStep_le character
      rw [List.length_cons] at room
      have counted :
          countBraces limit (depth + braceStep character) text =
            .ok (depth + braceStep character + braceDelta text) :=
        ih (by omega)
      rw [countBraces, depthWithin_eq_ok (by omega), braceDelta_cons,
        ← Int.add_assoc, ← counted]
      rfl

/-- A block that is balanced holds the lines up to there, and one that is not
holds all of them. -/
theorem exists_balanceOffset?
    (room : depth.natAbs + below.flatten.length < limit) :
    ∃ offset?,
      balanceOffset? limit depth below = .ok offset? ∧
        linesToBalance depth below = offset?.elim below.length (· + 1) := by
  induction below generalizing depth with
  | nil => exact ⟨none, rfl, rfl⟩
  | cons line below ih =>
      have change := natAbs_braceDelta_le line
      rw [List.flatten_cons, List.length_append] at room
      have counted : countBraces limit 0 line = .ok (braceDelta line) := by
        rw [countBraces_eq_ok (by omega), Int.zero_add]
      have within :
          depthWithin limit (depth + braceDelta line) =
            .ok (depth + braceDelta line) :=
        depthWithin_eq_ok (by omega)
      by_cases balanced : depth + braceDelta line = 0
      · refine ⟨some 0, ?_, ?_⟩
        · simp only [balanceOffset?, counted, within, bind, Except.bind,
            if_pos balanced]
          rfl
        · simp only [linesToBalance, if_pos balanced, Option.elim_some]
      · have smaller :
            (depth + braceDelta line).natAbs +
                below.flatten.length < limit := by
          omega
        rcases ih smaller with ⟨offset?, found, extent⟩
        refine ⟨offset?.map (· + 1), ?_, ?_⟩
        · simp only [balanceOffset?, counted, within, bind, Except.bind,
            if_neg balanced, found]
          rfl
        · simp only [linesToBalance, if_neg balanced, extent]
          cases offset? with
          | none => exact Nat.add_comm 1 below.length
          | some offset => exact Nat.add_comm 1 (offset + 1)

/-- Room for all lines is room for a header and the lines below it. -/
theorem Fits.room
    {header : Line}
    (fits : Fits limit lines)
    (present : lines[start]? = some header) :
    header.length + (lines.drop (start + 1)).flatten.length <
      limit := by
  rcases List.getElem?_eq_some_iff.mp present with ⟨inside, rfl⟩
  have whole :
      lines.flatten =
        (lines.take start).flatten ++ (lines.drop start).flatten := by
    rw [← List.flatten_append, List.take_append_drop]
  have characters := fits.characters
  rw [whole, List.drop_eq_getElem_cons inside, List.flatten_cons,
    List.length_append, List.length_append] at characters
  omega

theorem braceEndAt_eq_ok
    {header : Line}
    (fits : Fits limit lines)
    (present : lines[start]? = some header) :
    braceEndAt limit lines start =
      .ok (start + braceExtent header (lines.drop (start + 1))) := by
  have room := fits.room present
  have positions := fits.positions
  have inside := (List.getElem?_eq_some_iff.mp present).1
  have change := natAbs_braceDelta_le header
  have counted : countBraces limit 0 header = .ok (braceDelta header) := by
    rw [countBraces_eq_ok (by omega), Int.zero_add]
  simp only [braceEndAt, lineAt_eq_ok present, counted, bind, Except.bind]
  by_cases closes : braceDelta header = 0 ∧ '}' ∈ header
  · simp only [if_pos closes, braceExtent_of_closesItself closes]
    rfl
  · have next : countWithin limit (start + 1) = .ok (start + 1) :=
      countWithin_eq_ok (by omega)
    have below :
        linesFrom lines (start + 1) = .ok (lines.drop (start + 1)) :=
      linesFrom_eq_ok inside
    have smaller :
        (braceDelta header).natAbs +
            (lines.drop (start + 1)).flatten.length < limit := by
      omega
    rcases exists_balanceOffset? smaller with ⟨offset?, found, extent⟩
    simp only [if_neg closes, next, below, found,
      braceExtent_of_not_closesItself closes, extent, List.length_drop]
    cases offset? with
    | none =>
        simp only [Option.elim_none]
        exact congrArg Except.ok (by omega)
    | some offset =>
        have bound := linesToBalance_le_length (braceDelta header)
          (lines.drop (start + 1))
        rw [extent, Option.elim_some, List.length_drop] at bound
        simp only [Option.elim_some]
        rw [countWithin_eq_ok (by omega)]
        exact congrArg Except.ok (by omega)

theorem indentEndAt_eq_ok
    {header : Line}
    (fits : Fits limit lines)
    (present : lines[start]? = some header) :
    indentEndAt limit lines start =
      .ok (start + indentExtent header (lines.drop (start + 1))) := by
  have positions := fits.positions
  have inside := (List.getElem?_eq_some_iff.mp present).1
  have next : countWithin limit (start + 1) = .ok (start + 1) :=
    countWithin_eq_ok (by omega)
  have below :
      linesFrom lines (start + 1) = .ok (lines.drop (start + 1)) :=
    linesFrom_eq_ok inside
  have bound := indentExtent_le_length header (lines.drop (start + 1))
  rw [List.length_drop] at bound
  rw [indentExtent_eq_findIdx] at bound ⊢
  simp only [indentEndAt, lineAt_eq_ok present, next, below, bind,
    Except.bind]
  split
  · next offset found =>
    rw [List.findIdx?_eq_some_iff_findIdx_eq] at found
    rw [found.2] at bound ⊢
    exact countWithin_eq_ok (by omega)
  · next unbroken =>
    rw [List.findIdx?_eq_none_iff_findIdx_eq] at unbroken
    rw [unbroken, List.length_drop]
    exact congrArg Except.ok (by omega)

theorem BlockKind.endAt_eq_ok
    (block : BlockKind)
    {header : Line}
    (fits : Fits limit lines)
    (present : lines[start]? = some header) :
    block.endAt limit lines start =
      .ok (start + block.extent header (lines.drop (start + 1))) := by
  cases block with
  | braces => exact braceEndAt_eq_ok fits present
  | indentation => exact indentEndAt_eq_ok fits present

theorem candidateAt?_eq_ok
    (header : HeaderKind)
    (block : BlockKind)
    (fits : Fits limit lines)
    (present : lines[start]? = some line) :
    candidateAt? limit header block lines start =
      .ok
        ((header.signature? line).map fun signature =>
          ⟨signature, start,
            start + block.extent line (lines.drop (start + 1))⟩) := by
  simp only [candidateAt?, lineAt_eq_ok present, bind, Except.bind]
  cases header.signature? line with
  | none => rfl
  | some signature =>
      simp only [block.endAt_eq_ok fits present]
      rfl

/-- Above a position the scan by positions finds what the scan through the lines
finds. -/
theorem scanBefore?_eq_ok
    (header : HeaderKind)
    (block : BlockKind)
    (fits : Fits limit lines)
    (cursor : Nat)
    {position : Nat}
    (inside : position ≤ lines.length) :
    scanBefore? limit header block lines cursor position =
      .ok
        (nearestEnclosing? header block cursor
          (lines.take position).reverse (lines.drop position)) := by
  induction position with
  | zero => rfl
  | succ position ih =>
      have above := ih (Nat.le_of_succ_le inside)
      have present : lines[position]? = some lines[position] :=
        List.getElem?_eq_getElem inside
      have size : (lines.take position).length = position :=
        List.length_take_of_le (Nat.le_of_succ_le inside)
      rw [List.drop_eq_getElem_cons inside] at above
      rw [List.take_succ_eq_append_getElem inside, List.reverse_append,
        List.reverse_singleton, List.singleton_append,
        nearestEnclosing?, List.length_reverse, size]
      simp only [scanBefore?, candidateAt?_eq_ok header block fits present,
        bind, Except.bind]
      cases header.signature? lines[position] with
      | none => exact above
      | some signature =>
          simp only [Option.map_some]
          split
          · rfl
          · exact above

/-- The scan by positions finds what the scan through the lines finds. -/
theorem scanUpward?_eq_ok
    (header : HeaderKind)
    (block : BlockKind)
    (fits : Fits limit lines)
    (cursor : Nat) :
    scanUpward? limit header block lines cursor =
      .ok (enclosing? header block lines cursor) := by
  rw [scanUpward?]
  split
  · next isEmpty =>
    subst isEmpty
    rw [enclosing?, List.take_nil, List.drop_nil]
    rfl
  · next nonempty =>
    have someLine : 1 ≤ lines.length :=
      List.length_pos_iff.mpr nonempty
    have first :
        min cursor (lines.length - 1) + 1 = min (cursor + 1) lines.length := by
      omega
    simp only [countWithout, bind, Except.bind]
    rw [if_pos someLine]
    simp only [first]
    rw [scanBefore?_eq_ok header block fits cursor
      (Nat.min_le_right _ _), enclosing?]
    rcases Nat.le_total (cursor + 1) lines.length with within | past
    · rw [Nat.min_eq_left within]
    · rw [Nat.min_eq_right past, List.take_of_length_le past,
        List.drop_eq_nil_of_le past, List.take_length, List.drop_length]

theorem Candidate.StandsIn.recordAt_eq_ok
    {candidate : Candidate}
    {header : HeaderKind}
    {block : BlockKind}
    (stands : candidate.StandsIn header block lines)
    (language : String) :
    candidate.recordAt lines language =
      .ok (candidate.recordIn lines language) := by
  rcases stands.bounds with ⟨ordered, inside⟩
  rw [recordAt, linesThrough, excerpt?_of_lt ordered inside]
  rfl

end NothingGoesWrong

/-- With numbers that can count the characters of the text, nothing goes wrong in
the search by positions, and it answers as the search through the lines does. -/
theorem extractByPositions_eq_ok
    {limit : Nat}
    {source : String}
    (short : source.length < limit)
    (cursor : Nat)
    (language : String) :
    extractByPositions limit source cursor language =
      .ok (extract source cursor language) := by
  have fits : Fits limit (linesOf source.toList) :=
    fits_linesOf (by rwa [String.length_toList])
  rw [extract_eq_strategyOf_extract, Strategy.extract]
  simp only [extractByPositions, scanUpward?_eq_ok _ _ fits, bind,
    Except.bind]
  cases found :
      enclosing? (strategyOf language).header (strategyOf language).block
        (linesOf source.toList) cursor with
  | none => rfl
  | some candidate =>
      have stands := (isInnermost_of_enclosing?_eq_some found).toStandsIn
      simp only [stands.recordAt_eq_ok, Option.bind_some,
        stands.record?_eq]
      rfl

end TestScribe.Locate
