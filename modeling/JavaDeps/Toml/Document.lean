import JavaDeps.Toml.Nested

/-!
# TOML documents

A document is a list of lines: entries, and headers that say where the entries after them belong.
**A header opens a table once**; a table that exists only because a header named something inside of
it can still be opened. Dotted keys add to tables that dotted keys made, not to tables with a
header.
-/

namespace JavaDeps.Toml

/-- What made a table. A table that was only implied may still get a header of its own, and one made
by a dotted key may not. -/
inductive Origin where
  /-- A header of its own. -/
  | header
  /-- The header of something inside of it. -/
  | implied
  /-- A dotted key. -/
  | dotted
  deriving DecidableEq, Repr

/-- A part of a document: a value, a table with what made it, or tables that share a header. -/
inductive Node where
  | value (v : Value)
  | table (origin : Origin) (entries : List (String × Node))
  /-- Tables that share a header, each with its entries; the one opened last comes first. -/
  | tables (last : List (String × Node)) (earlier : List (List (String × Node)))
  deriving Inhabited

/-- The entries of a table in a document. -/
abbrev Nodes := List (String × Node)

mutual

/-- The value of a part. -/
def Node.finish : Node → Value
  | .value v => v
  | .table _ entries => .table (finishNodes entries)
  | .tables last earlier => .list (finishTables earlier ++ [.table (finishNodes last)])

/-- The values of entries. -/
def finishNodes : List (String × Node) → Entries
  | [] => []
  | (key, n) :: rest => (key, n.finish) :: finishNodes rest

/-- The values of tables, the last first. -/
def finishTables : List (List (String × Node)) → List Value
  | [] => []
  | entries :: rest => finishTables rest ++ [.table (finishNodes entries)]

end

/-! ### Headers -/

/-- Changes the entries of the table that a header passes through on its way to a part inside. -/
def through? (f : Nodes → Option Nodes) : Option Node → Option Node
  | none => (f []).map (.table .implied)
  | some (.table origin entries) => (f entries).map (.table origin)
  | some (.tables last earlier) => (f last).map (.tables · earlier)
  | some (.value _) => none

/-- Opens the table with a header. -/
def openTable? : List String → Nodes → Option Nodes
  | [], _ => none
  | [key], entries =>
    match entries.lookup key with
    | none => some (putEntry key (.table .header []) entries)
    | some (.table .implied inner) => some (putEntry key (.table .header inner) entries)
    | some _ => none
  | key :: rest, entries => do
    return putEntry key (← through? (openTable? rest) (entries.lookup key)) entries

/-- Opens one more of the tables that share a header. -/
def openNext? : List String → Nodes → Option Nodes
  | [], _ => none
  | [key], entries =>
    match entries.lookup key with
    | none => some (putEntry key (.tables [] []) entries)
    | some (.tables last earlier) => some (putEntry key (.tables [] (last :: earlier)) entries)
    | some _ => none
  | key :: rest, entries => do
    return putEntry key (← through? (openNext? rest) (entries.lookup key)) entries

/-! ### Entries -/

/-- Adds a value under a dotted key to the entries of a table. -/
def addNode? (v : Value) : List String → Nodes → Option Nodes
  | [], _ => none
  | [key], entries =>
    if (entries.lookup key).isSome then none else some (entries ++ [(key, .value v)])
  | [key, last], entries => do
    let inner ← match entries.lookup key with
      | none => some []
      | some (.table .dotted inner) => some inner
      | some _ => none
    return putEntry key (.table .dotted (← addNode? v [last] inner)) entries
  | key :: next :: last :: rest, entries => do
    let add := addNode? v (next :: last :: rest)
    let node ← match entries.lookup key with
      | none => (add []).map (.table .dotted)
      | some (.table .header _) => none
      | node => through? add node
    return putEntry key node entries

/-- Adds a value under a dotted key to the table at the place of a header. -/
def addUnder? (key : List String) (v : Value) : List String → Nodes → Option Nodes
  | [], entries => addNode? v key entries
  | name :: rest, entries => do
    return putEntry name (← through? (addUnder? key v rest) (entries.lookup name)) entries

/-! ### Lines -/

/-- A line. -/
inductive Line where
  | blank
  | table (key : List String)
  | tables (key : List String)
  | entry (key : List String) (v : Value)

/-- What stands on a line, without the end of the line. -/
def lineContent? : Reader Line := fun cs ↦
  match cs with
  | '[' :: '[' :: rest => do
    let (key, rest) ← key? rest
    return (.tables key, ← expect? ']' (← expect? ']' rest))
  | '[' :: rest => do
    let (key, rest) ← key? rest
    return (.table key, ← expect? ']' rest)
  | [] | '#' :: _ | '\n' :: _ | '\r' :: _ => some (.blank, cs)
  | _ => do
    let (key, rest) ← key? cs
    let (v, rest) ← value? (skipBlanks (← expect? '=' rest))
    return (.entry key v, rest)

/-- What follows the end of a line, with a comment before it if there is one. -/
def endLine? (cs : List Char) : Option (List Char) :=
  match skipComment (skipBlanks cs) with
  | [] => some []
  | cs => lineEnd? cs

/-- A document as far as it has been read: its parts, and the header in force, below which entries
go. -/
structure Progress where
  nodes : Nodes := []
  place : List String := []

/-- Takes in a line. -/
def Progress.add? (p : Progress) : Line → Option Progress
  | .blank => some p
  | .table key => do return ⟨← openTable? key p.nodes, key⟩
  | .tables key => do return ⟨← openNext? key p.nodes, key⟩
  | .entry key v => do return { p with nodes := ← addUnder? key v p.place p.nodes }

/-- Takes in at most so many lines. -/
def Progress.addLines? : Nat → Progress → List Char → Option Progress
  | _, p, [] => some p
  | 0, _, _ => none
  | n + 1, p, cs => do
    let (line, rest) ← lineContent? (skipBlanks cs)
    let p ← p.add? line
    addLines? n p (← endLine? rest)

/-- What follows a mark of byte order. -/
def skipMark : List Char → List Char
  | '\ufeff' :: rest => rest
  | cs => cs

/-- The entries of a document, in the order in which their keys are first met. Nothing if some line
cannot be read, or defines again what is there. -/
def parse? (text : String) : Option Entries := do
  let cs := skipMark text.toList
  let p ← Progress.addLines? cs.length {} cs
  return finishNodes p.nodes

end JavaDeps.Toml
