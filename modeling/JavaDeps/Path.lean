/-!
# Lexical paths

A path is a text. **Its meaning is the list of its components**: repeated separators, a final
separator and every `.` but a leading one do not count, so `a//b/` and `a/./b` are one path in two
spellings. A path is shown as it is spelled, and compared by its components.

Nothing here looks at files. `clean` removes `..` by spelling alone.
-/

namespace JavaDeps

/-- A component of a path. -/
inductive Component where
  | root
  | current
  | parent
  | normal (name : String)
  deriving DecidableEq, Repr, Inhabited

namespace Component

/-- The rank of a component among the four sorts. -/
def rank : Component → Nat
  | root => 0
  | current => 1
  | parent => 2
  | normal _ => 3

/-- The name of a normal component. -/
def name : Component → String
  | normal s => s
  | _ => ""

/-- The root comes first, then `.`, then `..`, then names in their order. -/
instance : Ord Component where
  compare := compareLex (compareOn rank) (compareOn name)

theorem eq_of_rank_of_name {a b : Component} (hr : a.rank = b.rank) (hn : a.name = b.name) :
    a = b := by
  cases a <;> cases b <;> simp_all [rank, name]

instance : Std.TransOrd Component :=
  inferInstanceAs (Std.TransCmp (compareLex (compareOn rank) (compareOn name)))

instance : Std.LawfulEqOrd Component where
  compare_self := Std.ReflOrd.compare_self
  eq_of_compare {a b} h := by
    have h : (compareOn rank a b).then (compareOn name a b) = .eq := h
    rw [Ordering.then_eq_eq] at h
    exact eq_of_rank_of_name (Std.LawfulEqOrd.eq_of_compare h.1) (Std.LawfulEqOrd.eq_of_compare h.2)

/-- The text of a component. -/
def text : Component → String
  | root => "/"
  | current => "."
  | parent => ".."
  | normal s => s

end Component

/-- A path, as it is spelled. Whether two spellings lead to the same place is told by their
components, and nothing is looked up for it. -/
structure Path where
  text : String
  deriving DecidableEq, Repr, Inhabited

namespace Path

instance : Coe String Path := ⟨Path.mk⟩

/-! ### Components -/

/-- What stands between the separators: the part before the first, and the others. -/
structure Pieces where
  head : List Char
  body : List (List Char)
  deriving DecidableEq, Repr

/-- The pieces of a path. -/
def pieces (p : Path) : Pieces :=
  match p.text.toList.splitOn '/' with
  | [] => ⟨[], []⟩
  | head :: body => ⟨head, body⟩

/-- Whether the path starts at the root. -/
def isAbsolute (p : Path) : Bool :=
  p.text.toList.head? == some '/'

/-- The component of a piece after a separator, unless it does not count. -/
def bodyComponent? (piece : List Char) : Option Component :=
  match piece with
  | [] | ['.'] => none
  | ['.', '.'] => some .parent
  | piece => some (.normal (String.ofList piece))

/-- The component of the piece before the first separator; an empty one is the root when a separator
follows. -/
def headComponent? (absolute : Bool) (piece : List Char) : Option Component :=
  match piece with
  | [] => if absolute then some .root else none
  | ['.'] => some .current
  | ['.', '.'] => some .parent
  | piece => some (.normal (String.ofList piece))

/-- The components of a path. Separators in a row count as one, and a dot counts only at the
beginning. -/
def components (p : Path) : List Component :=
  (headComponent? p.isAbsolute p.pieces.head).toList ++ p.pieces.body.filterMap bodyComponent?

/-- Paths compare by their components. -/
instance : Ord Path where
  compare := compareOn components

instance : Std.TransOrd Path :=
  inferInstanceAs (Std.TransCmp (compareOn components))

/-- Whether two paths have the same components. They need not be spelled alike for it, but `a/../b`
and `b` are not the same. -/
def same (p q : Path) : Bool := p.components == q.components

theorem compare_eq_iff {p q : Path} : compare p q = .eq ↔ p.components = q.components :=
  Std.LawfulEqOrd.compare_eq_iff_eq (α := List Component)

/-! ### Building -/

/-- `p` followed by `q`, as `q` is resolved against `p`: an absolute `q` stands alone. -/
def join (p q : Path) : Path :=
  if q.isAbsolute then q
  else if p.text.isEmpty || p.text.toList.getLast? == some '/' then ⟨p.text ++ q.text⟩
  else ⟨p.text ++ "/" ++ q.text⟩

/-- The plain spelling of components. -/
def ofComponents (cs : List Component) : Path :=
  cs.foldl (fun p c ↦ p.join ⟨c.text⟩) ⟨""⟩

/-- Puts a component at the end of a clean path, kept in reverse. -/
def cleanStep (reversed : List Component) (c : Component) : List Component :=
  match c, reversed with
  | .current, _ => reversed
  | .parent, .root :: _ => reversed
  | .parent, .normal _ :: before => before
  | c, _ => c :: reversed

/-- The components left when `.` and `..` are removed by spelling. -/
def cleanComponents (cs : List Component) : List Component :=
  (cs.foldl cleanStep []).reverse

/-- The plain spelling of a path without `.` and removable `..`; `.` if nothing is left. Nothing is
looked up for it, so that links do not count. -/
def clean (p : Path) : Path :=
  match cleanComponents p.components with
  | [] => ⟨"."⟩
  | cs => ofComponents cs

/-! ### Parts

A part of a path keeps the spelling of what it takes over, less the pieces at its end that do not
count. -/

/-- Drops the pieces at the end that do not count. -/
def trimEnd (body : List (List Char)) : List (List Char) :=
  (body.reverse.dropWhile fun piece ↦ (bodyComponent? piece).isNone).reverse

/-- The text of pieces after one another. -/
def joinPieces (pieces : List (List Char)) : Path :=
  ⟨String.ofList (['/'].intercalate pieces)⟩

/-- The path with these pieces. -/
def Pieces.path (absolute : Bool) (s : Pieces) : Path :=
  if absolute ∧ s.head.isEmpty then ⟨"/" ++ (joinPieces s.body).text⟩
  else joinPieces (s.head :: s.body)

/-- The path without its last component; `none` for the root and for the empty path. -/
def parent? (p : Path) : Option Path :=
  let s := p.pieces
  match (trimEnd s.body).reverse with
  | _ :: before => some (Pieces.path p.isAbsolute ⟨s.head, trimEnd before.reverse⟩)
  | [] => if s.head.isEmpty then none else some ⟨""⟩

/-- The name at the end of a path, if it ends in one. -/
def fileName? (p : Path) : Option String :=
  match p.components.getLast? with
  | some (.normal name) => some name
  | _ => none

/-- What follows the last dot of the name; a leading dot starts no extension. -/
def extension? (p : Path) : Option String := do
  let name ← p.fileName?
  let reversed := name.toList.reverse
  let extension := reversed.takeWhile (· != '.')
  match reversed.drop extension.length with
  | [] | [_] => none
  | _ => some (String.ofList extension.reverse)

/-- Whether the components of `base` come first in `p`. An empty `base` comes first everywhere, and
a dot does only where there is one. -/
def startsWith (p base : Path) : Bool :=
  base.components.isPrefixOf p.components

/-- The pieces after the first `n` components of the body. -/
def dropComponents : Nat → List (List Char) → List (List Char)
  | 0, body => body.dropWhile fun piece ↦ (bodyComponent? piece).isNone
  | _ + 1, [] => []
  | n + 1, piece :: rest =>
    if (bodyComponent? piece).isNone then dropComponents (n + 1) rest else dropComponents n rest

/-- What follows `base` in `p`, if the components of `base` come first there. -/
def stripBase? (p base : Path) : Option Path :=
  if !p.startsWith base then none
  else
    let s := p.pieces
    match base.components.length with
    | 0 => some (Pieces.path p.isAbsolute ⟨s.head, trimEnd s.body⟩)
    | n + 1 =>
      let headCount := (headComponent? p.isAbsolute s.head).toList.length
      some (joinPieces (trimEnd (dropComponents (n + 1 - headCount) s.body)))

end Path

end JavaDeps
