import JavaDeps.Sorted.Map
import JavaDeps.Toml.Value

/-!
# Reading sections

A section is read from a table, whose entries are visited **in order of their keys**, or from a
list, whose items stand for the fields in the order of their declaration. Fields that are not given
keep what they have, and entries that are no fields are passed over. The first value that does not
fit is the one reported.
-/

namespace JavaDeps.Config

open Toml (Value)

/-- How a value does not fit. -/
inductive MisfitKind where
  | type
  /-- A number out of range. -/
  | range
  /-- A word that is none of those allowed. -/
  | word
  deriving DecidableEq, Repr

/-- A value that does not fit, and the keys on the way to it, the outermost first. -/
structure Misfit where
  kind : MisfitKind
  keys : List String := []
  deriving DecidableEq, Repr

/-- What reading a value comes to. -/
abbrev Reading (α : Type) := Except Misfit α

/-- What is read one key further in. -/
def within (key : String) (r : Reading α) : Reading α :=
  r.mapError fun m ↦ { m with keys := key :: m.keys }

/-! ### Values -/

/-- Reads a truth value. -/
def readBool : Value → Reading Bool
  | .bool b => .ok b
  | _ => .error ⟨.type, []⟩

/-- Reads a text. -/
def readText : Value → Reading String
  | .text s => .ok s
  | _ => .error ⟨.type, []⟩

/-- Reads a number that is not negative. -/
def readNat : Value → Reading Nat
  | .integer (.ofNat n) => .ok n
  | .integer (.negSucc _) => .error ⟨.range, []⟩
  | _ => .error ⟨.type, []⟩

/-- Reads items, the first at a given position. -/
def readItems (read : Value → Reading α) (position : Nat) : List Value → Reading (List α)
  | [] => .ok []
  | v :: rest => do
    let item ← within (toString position) (read v)
    return item :: (← readItems read (position + 1) rest)

/-- Reads a list. -/
def readList (read : Value → Reading α) : Value → Reading (List α)
  | .list items => readItems read 0 items
  | _ => .error ⟨.type, []⟩

/-! ### Sections -/

/-- A field of a section: its key, and how a value for it changes the section. A section is read by
going through its fields, so that one description serves for all of them. -/
structure Field (σ : Type) where
  key : String
  set : Value → σ → Reading σ

/-- A field that holds what is read from a value. -/
def Field.of (key : String) (read : Value → Reading α) (assign : α → σ → σ) : Field σ :=
  ⟨key, fun v s ↦ (read v).map (assign · s)⟩

/-- Takes the value of a field from the entries of a table. -/
def readField (entries : Toml.Entries) (s : σ) (field : Field σ) : Reading σ :=
  match entries.lookup field.key with
  | none => .ok s
  | some v => within field.key (field.set v s)

/-- The fields in order of their keys, which is the order in which they are visited: of two values
that do not fit, the one with the smaller key is reported. -/
def byKey (fields : List (Field σ)) : List (Field σ) :=
  (SortedMap.ofList (fields.map fun field ↦ (field.key, field))).values

/-- Takes fields from items, the first at a given position. -/
def readPositions (position : Nat) (s : σ) : List (Field σ) → List Value → Reading σ
  | field :: fields, v :: items => do
    readPositions (position + 1) (← within (toString position) (field.set v s)) fields items
  | _, _ => .ok s

/-- Reads a section that starts out as `s`, from a table by the keys of fields, or from a list by
their positions. -/
def readSection (fields : List (Field σ)) (v : Value) (s : σ) : Reading σ :=
  match v with
  | .table entries => (byKey fields).foldlM (readField entries) s
  | .list items => readPositions 0 s fields items
  | _ => .error ⟨.type, []⟩

/-- A field that is a section of its own. It starts out as `start` whenever it is there, and not as
what was read before. -/
def Field.section (key : String) (fields : List (Field τ)) (start : τ) (assign : τ → σ → σ) :
    Field σ :=
  .of key (readSection fields · start) assign

end JavaDeps.Config
