import JavaDeps.Terminal.Style

/-!
# Messages

What a command says about its own progress, one line each, with a sign in front.
-/

namespace JavaDeps.Terminal

/-- How serious a message is. -/
inductive Severity where
  | success
  | info
  | warning
  | error
  deriving DecidableEq, Repr

namespace Severity

/-- The sign in front of a message. -/
def sign : Severity → String
  | success => "✓"
  | info => "ℹ"
  | warning => "⚠"
  | error => "✗"

/-- The colour of the sign. -/
def colour : Severity → Style
  | success => .green
  | info => .blue
  | warning => .yellow
  | error => .red

/-- Whether the colour covers the text as well. -/
def coloursText : Severity → Bool
  | success | info => false
  | warning | error => true

end Severity

/-- A message for whoever runs the program: how serious it is, and its text. -/
structure Message where
  severity : Severity
  text : String
  deriving DecidableEq, Repr

/-- A message as a line. -/
def Message.line (colours : Bool) (m : Message) : String :=
  paint colours [m.severity.colour, .bold] m.severity.sign ++ " "
    ++ paint colours (if m.severity.coloursText then [m.severity.colour] else []) m.text ++ "\n"

end JavaDeps.Terminal
