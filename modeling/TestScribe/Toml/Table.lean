import TestScribe.Toml.Value
/-!
# Adding to tables

Headers and dotted keys lead along a path of keys into tables inside tables.
Tables that are missing on the way are made.  A header may lead through any
table that is not written inline; a dotted key may not lead into a table that
has a header of its own, and may add only to a table that dotted keys made.
-/

namespace TestScribe.Toml

/-- Replace the value of the first entry with this key. -/
def replaceEntry (key : String) (value : Value) : Entries → Entries
  | [] => []
  | (name, old) :: entries =>
    if name == key then (name, value) :: entries
    else (name, old) :: replaceEntry key value entries

/-- Change the table at the end of a path.  Missing tables are made with the
origin `made`; tables whose origin `mayEnter` refuses block the way; a path that
meets an array of tables goes on in its last element.  The change is told the
origin of the table it is given. -/
def changeTable? (made : TableOrigin) (mayEnter : TableOrigin → Bool)
    (change : TableOrigin → Entries → Option Entries) :
    TableOrigin → List String → Entries → Option Entries
  | origin, [], entries => change origin entries
  | _, key :: path, entries =>
    match entries.lookup key with
    | none => do
      let inner ← changeTable? made mayEnter change made path []
      return entries ++ [(key, .table made inner)]
    | some (.table origin inner) =>
      if mayEnter origin then do
        let inner ← changeTable? made mayEnter change origin path inner
        return replaceEntry key (.table origin inner) entries
      else
        none
    | some (.tables elements) =>
      match elements.reverse with
      | [] => none
      | last :: before => do
        let last ← changeTable? made mayEnter change .header path last
        return replaceEntry key (.tables (last :: before).reverse) entries
    | some _ => none

/-- May a header lead through a table of this origin? -/
def headerMayEnter (origin : TableOrigin) : Bool :=
  origin != .inline

/-- May a dotted key lead through a table of this origin? -/
def dottedMayEnter (origin : TableOrigin) : Bool :=
  origin == .implied || origin == .dotted

/-- Add an entry under a key that is new to the table. -/
def addEntry? (key : String) (value : Value) (entries : Entries) : Option Entries :=
  if (entries.lookup key).isSome then none else some (entries ++ [(key, value)])

/-- Add a value to a table under a key that may be dotted. -/
def addValue? (path : List String) (key : String) (value : Value) (entries : Entries) :
    Option Entries :=
  let change (origin : TableOrigin) (entries : Entries) : Option Entries :=
    if !path.isEmpty && origin != .dotted then none else addEntry? key value entries
  changeTable? .dotted dottedMayEnter change .header path entries

/-- Open the table that a header names: a new one, or one that was only implied. -/
def openTable? (path : List String) (key : String) (entries : Entries) : Option Entries :=
  let change (_ : TableOrigin) (entries : Entries) : Option Entries :=
    match entries.lookup key with
    | none => some (entries ++ [(key, .table .header [])])
    | some (.table .implied inner) => some (replaceEntry key (.table .header inner) entries)
    | some _ => none
  changeTable? .implied headerMayEnter change .header path entries

/-- Open another element of the array of tables that a header names. -/
def openElement? (path : List String) (key : String) (entries : Entries) : Option Entries :=
  let change (_ : TableOrigin) (entries : Entries) : Option Entries :=
    match entries.lookup key with
    | none => some (entries ++ [(key, .tables [[]])])
    | some (.tables elements) => some (replaceEntry key (.tables (elements ++ [[]])) entries)
    | some _ => none
  changeTable? .implied headerMayEnter change .header path entries

/-- Add a value below the table that the last header opened. -/
def addBelow? (current path : List String) (key : String) (value : Value)
    (entries : Entries) : Option Entries :=
  changeTable? .implied headerMayEnter (fun _ inner => addValue? path key value inner)
    .header current entries

end TestScribe.Toml
