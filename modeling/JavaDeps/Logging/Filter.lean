import JavaDeps.Logging.Level
import JavaDeps.Pattern.Reader
import JavaDeps.Sorted.Set

/-!
# Log filters

A filter is a list of directives such as `target[span\x7bfield=value\x7d]=level`, of which every
part may be missing. Of two directives for the same target, span and field **the later one wins**.
-/

namespace JavaDeps.Logging

/-- A directive: which log lines it is about, by their target, their span and a field, and up to
which level they are let through. -/
structure Directive where
  target : Option String := none
  span : Option String := none
  /-- A field, with the value that it must have. -/
  field : Option (String × Option String) := none
  level : Level := .trace
  deriving DecidableEq, Repr

namespace Directive

/-- How far a directive has been read. A part begins at the given place. -/
inductive Place where
  | start
  | name (first : Nat)
  | span (first : Nat)
  | field (first : Nat)
  | fieldEnd
  | spanEnd
  | level (first : Nat)
  deriving DecidableEq, Repr

/-- A piece of a text. -/
def cut (text : List Char) (first last : Nat) : String :=
  String.ofList ((text.take last).drop first)

/-- The field in a text: its name, and after an equals sign a value, which is a pattern. -/
def fieldOf? (text : String) : Option (String × Option String) :=
  match text.toList.splitOn '=' with
  | name :: value :: _ =>
    let value := String.ofList value
    if (Pattern.parse? value).isSome then some (String.ofList name, some value) else none
  | _ => if text.isEmpty then none else some (text, none)

/-- Whether a name may start with a character. -/
def startsName (c : Char) : Bool :=
  c == '-' || c == ':' || c == '_' || Unicode.isAlphanumeric c

/-- Reads the character at a place. -/
def step? (text : List Char) (d : Directive) (place : Place) (i : Nat) (c : Char) :
    Option (Directive × Place) :=
  match place with
  | .start =>
    if c = '[' then some (d, .span (i + 1)) else if startsName c then some (d, .name i) else none
  | .name first =>
    if c = '=' then some ({ d with target := cut text first i }, .level (i + 1))
    else if c = '[' then some ({ d with target := cut text first i }, .span (i + 1))
    else some (d, place)
  | .span first =>
    if c = ']' then some ({ d with span := cut text first i }, .spanEnd)
    else if c = '\x7b' then
      some ({ d with span := if first = i then none else cut text first i }, .field (i + 1))
    else some (d, place)
  | .field first =>
    if c = '\x7d' then do return ({ d with field := ← fieldOf? (cut text first i) }, .fieldEnd)
    else some (d, place)
  | .fieldEnd => if c = ']' then some (d, .spanEnd) else none
  | .spanEnd => if c = '=' then some (d, .level (i + 1)) else none
  | .level _ => some (d, place)

/-- Reads the characters from a place on. -/
def steps? (text : List Char) (d : Directive) (place : Place) (i : Nat) :
    List Char → Option (Directive × Place)
  | [] => some (d, place)
  | c :: rest => do
    let (d, place) ← step? text d place i c
    steps? text d place (i + 1) rest

/-- The directive whose characters end at a place. -/
def finish? (text : List Char) (d : Directive) : Place → Option Directive
  | .name first =>
    let name := String.ofList (text.drop first)
    match Level.parse? name with
    | some level => some { d with level }
    | none => some { d with target := name }
  | .level first =>
    let name := String.ofList (text.drop first)
    if name.isEmpty then some d else (Level.parse? name).map fun level ↦ { d with level }
  | .spanEnd => some d
  | _ => none

/-- The characters between blanks at both ends. -/
def trimmed (text : List Char) : List Char :=
  ((text.dropWhile Unicode.isWhiteSpace).reverse.dropWhile Unicode.isWhiteSpace).reverse

/-- Reads a directive. Blanks around it are passed over, but places count from its first
character. -/
def parse? (text : List Char) : Option Directive := do
  let (d, place) ← steps? text {} .start 0 (trimmed text)
  finish? text d place

/-- What a directive is about. -/
def subject (d : Directive) : String :=
  let field := match d.field with
    | none => ""
    | some (name, value) => "\x7b" ++ name ++ (value.elim "" ("=" ++ ·)) ++ "\x7d"
  d.target.getD "" ++
    if d.span.isSome || d.field.isSome then "[" ++ d.span.getD "" ++ field ++ "]" else ""

/-- The text of a directive. -/
def text (d : Directive) : String :=
  if d.subject.isEmpty then d.level.text else d.subject ++ "=" ++ d.level.text

end Directive

/-- A filter, as its directives. Which of them decides about a line is left to what writes the
lines. -/
structure Filter where
  directives : List Directive
  deriving DecidableEq, Repr

namespace Filter

/-- The filter that lets errors through. -/
def errors : Filter := ⟨[{ level := .error }]⟩

/-- A filter without directives that a later one overrides; if nothing is left it lets errors
through. -/
def ofDirectives : List Directive → Filter
  | [] => errors
  | ds => ⟨ds.foldl (fun kept d ↦ kept.filter (·.subject != d.subject) ++ [d]) []⟩

/-- Reads directives between commas. -/
def parse? (text : String) : Option Filter := do
  let pieces := (text.toList.splitOn ',').filter (!·.isEmpty)
  return ofDirectives (← pieces.mapM Directive.parse?)

/-- The directives as texts, in order. -/
def texts (f : Filter) : List String :=
  (SortedSet.ofList (f.directives.map (·.text))).toList

end Filter

/-- The components that write log lines. -/
def components : List String :=
  ["jvdeps_cli", "jvdeps_config", "jvdeps_index", "jvdeps_maven", "jvdeps_parser", "jvdeps_resolve"]

/-- One directive for every component. -/
def componentDirectives (level : String) : String :=
  ",".intercalate (components.map fun c ↦ c ++ "=" ++ level)

/-- The filter with one level for every component. -/
def Filter.everywhere (level : Level) : Filter :=
  ⟨components.map fun c ↦ { target := some c, level }⟩

/-- What decides about the filter: two flags of the command line, and directives in the environment
and in the settings. -/
structure Choice where
  verbose : Bool := false
  quiet : Bool := false
  /-- The directives in the environment. -/
  environment : Option String := none
  /-- The directives in the settings. -/
  setting : Option String := none
  deriving Repr

/-- The filter that is chosen. A filter that cannot be read counts as none. -/
def Choice.filter (c : Choice) : Filter :=
  if c.verbose then .everywhere .debug
  else if c.quiet then .errors
  else
    ((c.environment.bind Filter.parse?).or (c.setting.bind Filter.parse?)).getD (.everywhere .info)

end JavaDeps.Logging
