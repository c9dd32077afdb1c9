/-!
# Settings as values

What a TOML text holds, and what other sources of settings are read as. The sources lie over one
another: `overlay` puts one over another **key by key, at every depth**, and anything but a table is
replaced whole.
-/

namespace JavaDeps.Toml

/-- A value, as a setting may have one. Tables keep the order of their entries. -/
inductive Value where
  | bool (b : Bool)
  | integer (n : Int)
  /-- A number with a fraction or an exponent. No setting is one, so its size is not kept. -/
  | real
  | text (s : String)
  | list (items : List Value)
  | table (entries : List (String × Value))
  deriving Inhabited

/-- The entries of a table, one for each key. -/
abbrev Entries := List (String × Value)

namespace Value

/-- The entries of a table; other values have none. -/
def entries : Value → Entries
  | table entries => entries
  | _ => []

/-- The table with one value under a path of keys. -/
def nest (path : List String) (v : Value) : Value :=
  path.foldr (fun key inner ↦ table [(key, inner)]) v

end Value

/-- Sets a key, in its place if it is there and at the end otherwise. -/
def setEntry (key : String) (v : Value) : Entries → Entries
  | [] => [(key, v)]
  | (k, old) :: rest => if k = key then (key, v) :: rest else (k, old) :: setEntry key v rest

mutual

/-- Lays a value over another: the upper one wins, but tables are merged. -/
def overlay (lower : Value) : Value → Value
  | .table upper =>
    match lower with
    | .table entries => .table (overlayEntries entries upper)
    | _ => .table upper
  | upper => upper

/-- Lays entries over others, one after the other. -/
def overlayEntries (lower : Entries) : Entries → Entries
  | [] => lower
  | (key, v) :: rest =>
    let merged :=
      match lower.lookup key with
      | some old => overlay old v
      | none => v
    overlayEntries (setEntry key merged lower) rest

end

end JavaDeps.Toml
