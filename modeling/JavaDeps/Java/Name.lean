import JavaDeps.Unicode.Property

/-!
# Java names

A name is a list of segments; its text joins them with dots. Types are told from packages by
spelling: **the first capitalised segment of a qualified name is its top-level type**, and what
follows it is nested in that type or a member of it.
-/

namespace JavaDeps.Java

/-- Whether a segment starts with an upper-case character. -/
def isCapitalized (segment : String) : Bool :=
  segment.toList.head?.any Unicode.isUppercase

/-- Whether a segment holds a lower-case character. -/
def hasLowercase (segment : String) : Bool :=
  segment.toList.any Unicode.isLowercase

/-- The text of a qualified name. -/
def dotted (segments : List String) : String :=
  ".".intercalate segments

/-- The segments up to the first capitalised one, or all of them if none is. What follows are
members and nested types, which no build rule tells apart. -/
def upToType : List String → List String
  | [] => []
  | s :: rest => if isCapitalized s then [s] else s :: upToType rest

/-- The top-level type that a qualified name leads to, going by the convention that types are
capitalised and packages are not. -/
def topLevelType (segments : List String) : String :=
  dotted (upToType segments)

/-- A simple name put into a package; the unnamed package adds nothing. -/
def qualify (package name : String) : String :=
  if package.isEmpty then name else package ++ "." ++ name

/-! ### Class names in string literals -/

/-- What stands between the quotes of a literal. -/
def unquoted? : List Char → Option (List Char)
  | '"' :: rest =>
    match rest.getLast? with
    | some '"' => some rest.dropLast
    | _ => none
  | _ => none

/-- Whether a stretch of text can be a segment of a class name: a letter, an underscore or a dollar
sign, and then these and digits. -/
def isClassSegment (segment : List Char) : Bool :=
  !segment.isEmpty
    && segment.all (fun c ↦ Unicode.isAlphanumeric c || c == '_' || c == '$')
    && !segment.head?.any Char.isDigit

/-- The top-level class that a string literal names, if it reads as a qualified class name: nested
classes follow a `$`. -/
def className? (literal : String) : Option String := do
  let inner ← unquoted? literal.toList
  let segments := inner.splitOn '.'
  guard (2 ≤ segments.length)
  guard (segments.all isClassSegment)
  let names := segments.map String.ofList
  guard (names.any isCapitalized)
  some (String.ofList ((topLevelType names).toList.takeWhile (· != '$')))

end JavaDeps.Java
