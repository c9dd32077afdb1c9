/-!
# Log levels

A level says how much is logged; each level includes those before it. It is written as a word in any
case, or as a number.
-/

namespace JavaDeps.Logging

/-- How much is logged, from nothing to everything. Each level lets through what the ones before it
do. -/
inductive Level where
  | off
  | error
  | warn
  | info
  | debug
  | trace
  deriving DecidableEq, Repr

namespace Level

/-- The word for a level. -/
def text : Level → String
  | off => "off"
  | error => "error"
  | warn => "warn"
  | info => "info"
  | debug => "debug"
  | trace => "trace"

/-- All levels, from the least to the most. -/
def all : List Level := [off, error, warn, info, debug, trace]

/-- The number written by characters: digits, after a plus sign if any. -/
def number? (cs : List Char) : Option Nat :=
  let digits := if cs.head? == some '+' then cs.tail else cs
  if digits.isEmpty || !digits.all Char.isDigit then none
  else some (digits.foldl (fun n c ↦ 10 * n + (c.toNat - '0'.toNat)) 0)

/-- Reads a level. -/
def parse? (text : String) : Option Level :=
  match (number? text.toList).bind (all[·]?) with
  | some level => some level
  | none => if text.isEmpty then some error else all.find? (·.text == text.toLower)

end Level

end JavaDeps.Logging
