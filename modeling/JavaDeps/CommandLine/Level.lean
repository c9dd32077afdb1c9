import JavaDeps.CommandLine.Options

/-!
# Reading one level of the command line

Words are read from left to right. An option that takes a value waits for it, and **counts only when
the next thing is settled**: another option, a word that stands alone, or the end. So a fault in a
value is reported after a fault in the word that follows it.
-/

namespace JavaDeps.CommandLine

/-- Why a command line is not run: it asks for something else, like help, or there is something
wrong with it. -/
inductive UsageFault where
  | helpWanted
  | versionWanted
  /-- Nothing at all was given. -/
  | nothingGiven
  | missingCommand
  | unknownCommand
  | unknownArgument
  /-- Something was given twice, or with something that excludes it. -/
  | conflict
  | missingArgument
  /-- A value is missing or empty. -/
  | emptyValue
  /-- A value is no number. -/
  | badNumber
  /-- A value for an option that takes none. -/
  | unwantedValue
  deriving DecidableEq, Repr

/-- The value of an option, as what the option takes it to be. -/
inductive Given where
  | nothing
  | text (s : String)
  | path (p : Path)
  | number (n : Nat)
  deriving DecidableEq, Repr

/-- An option that is not settled, with its value if it has one already. -/
structure Pending where
  spec : OptionSpec
  value : Option String := none
  deriving DecidableEq, Repr

/-- A level as far as it has been read: what has been settled, what waits for its value, and whether
more options may follow. -/
structure Level where
  spec : LevelSpec
  /-- The options that are settled, in order. -/
  settled : List (Purpose × Given) := []
  pending : Option Pending := none
  /-- Whether the word that stands alone was met. -/
  positionalMet : Bool := false
  /-- Whether only words that stand alone may follow. -/
  optionsEnded : Bool := false
  deriving DecidableEq, Repr

namespace Level

/-! ### Settling options -/

/-- The number that digits stand for, if it has 64 bits; a plus sign may come first. -/
def number? (s : String) : Option Nat :=
  let digits := if s.toList.head? == some '+' then s.toList.tail else s.toList
  if digits.isEmpty || !digits.all Char.isDigit then none
  else
    let n := digits.foldl (fun n c ↦ 10 * n + (c.toNat - '0'.toNat)) 0
    if n < Nat.pow 2 64 then some n else none

/-- What a value stands for. -/
def given (takes : Takes) (value : String) : Except UsageFault Given :=
  match takes with
  | .nothing => .ok .nothing
  | .text => .ok (.text value)
  | .path => if value.isEmpty then .error .emptyValue else .ok (.path ⟨value⟩)
  | .number =>
    match number? value with
    | some n => .ok (.number n)
    | none => .error .badNumber

/-- Whether an option is settled. -/
def has (l : Level) (purpose : Purpose) : Bool := l.settled.any (·.1 == purpose)

/-- Settles an option with its value. -/
def store (l : Level) (spec : OptionSpec) (value : Option String) : Except UsageFault Level :=
  if spec.takes != .nothing && value.isNone then .error .emptyValue
  else if spec.purpose = .help then .error .helpWanted
  else if spec.purpose = .version then .error .versionWanted
  else if !spec.repeatable && l.has spec.purpose then .error .conflict
  else do
    let g ← given spec.takes (value.getD "")
    return { l with settled := l.settled ++ [(spec.purpose, g)] }

/-- Settles what is pending. -/
def settle (l : Level) : Except UsageFault Level :=
  match l.pending with
  | none => .ok l
  | some p => store { l with pending := none } p.spec p.value

/-- Settles what is pending, and then another option. -/
def settleWith (l : Level) (spec : OptionSpec) (value : Option String) :
    Except UsageFault Level := do
  (← l.settle).store spec value

/-- Settles what is pending, and lets another option wait. -/
def await (l : Level) (p : Pending) : Except UsageFault Level := do
  return { ← l.settle with pending := some p }

/-- Whether an option waits for its value. -/
def isWaiting (l : Level) : Bool := l.pending.any (·.value.isNone)

/-! ### Words -/

/-- Reads an option by its long name, with the value after an equals sign if there is one. -/
def long (l : Level) (word : List Char) : Except UsageFault Level :=
  let name := String.ofList (word.takeWhile (· != '='))
  let value :=
    match word.dropWhile (· != '=') with
    | _ :: value => some (String.ofList value)
    | [] => none
  match l.spec.options.find? (·.long == name) with
  | none => .error .unknownArgument
  | some spec =>
    if spec.takes = .nothing then
      if value.isSome then .error .unwantedValue else l.settleWith spec none
    else
      match value with
      | some value => l.settleWith spec (some value)
      | none => l.await { spec }

/-- The value that stands right after the letter of an option. -/
def attachedValue? : List Char → Option String
  | [] => none
  | '=' :: value => some (String.ofList value)
  | value => some (String.ofList value)

/-- Reads options by their letters. The first that takes a value takes the rest of the word. -/
def short (l : Level) : List Char → Except UsageFault Level
  | [] => .ok l
  | c :: rest =>
    match l.spec.options.find? (·.short == some c) with
    | none => .error .unknownArgument
    | some spec =>
      if spec.takes = .nothing then
        match l.settleWith spec none with
        | .ok l => short l rest
        | .error e => .error e
      else
        match attachedValue? rest with
        | some value => l.settleWith spec (some value)
        | none => l.await { spec }

/-- The fault of a word that nothing is there to take. -/
def strayFault (l : Level) (word : String) : UsageFault :=
  if l.spec.takesCommand then
    if l.optionsEnded && (word = "help" || (CommandName.ofText? word).isSome) then .unknownArgument
    else .unknownCommand
  else .unknownArgument

/-- Reads a word that stands alone. -/
def positional (l : Level) (word : String) : Except UsageFault Level :=
  match l.spec.positional with
  | some spec =>
    if l.positionalMet then .error (l.strayFault word)
    else do
      return { ← l.await ⟨spec, some word⟩ with positionalMet := true }
  | none => .error (l.strayFault word)

/-- Reads a word. -/
def word (l : Level) (w : String) : Except UsageFault Level :=
  if l.optionsEnded then l.positional w
  else
    match w.toList with
    | ['-', '-'] => .ok { l with optionsEnded := true }
    | '-' :: '-' :: name => l.long name
    | '-' :: c :: rest => l.short (c :: rest)
    | _ =>
      match l.pending with
      | some ⟨spec, none⟩ => .ok { l with pending := some ⟨spec, some w⟩ }
      | _ => l.positional w

/-- Whether a word is read as a command here. -/
def readsCommand (l : Level) : Bool := l.spec.takesCommand && !l.optionsEnded && !l.isWaiting

/-- Reads words, up to a command and with what follows it. -/
def words (l : Level) : List String → Except UsageFault (Level × Option (CommandName × List String))
  | [] => .ok (l, none)
  | w :: rest =>
    match if l.readsCommand then CommandName.ofText? w else none with
    | some command => .ok (l, some (command, rest))
    | none =>
      if l.readsCommand && w == "help" then .error (helpFault rest)
      else
        match l.word w with
        | .ok l => words l rest
        | .error e => .error e
where
  /-- What comes of asking for help on some words. -/
  helpFault : List String → UsageFault
    | [] => .helpWanted
    | [w] => if w = "help" || (CommandName.ofText? w).isSome then .helpWanted else .unknownCommand
    | _ => .unknownCommand

/-! ### The end -/

/-- Whether options that exclude each other are settled. -/
def hasConflict (l : Level) : Bool := l.has .verbose && l.has .quiet

/-- Settles what is pending at the end, and checks the options of the level together. -/
def finish (l : Level) (commandMet : Bool) : Except UsageFault Level := do
  let l ← l.settle
  if l.spec.takesCommand && !commandMet then
    throw (if l.settled.isEmpty then .nothingGiven else .missingCommand)
  else if l.hasConflict then throw .conflict
  else if l.spec.positional.isSome && !l.has .file then throw .missingArgument
  else return l

end Level

end JavaDeps.CommandLine
