/-!
# Styled text

Text on a terminal has colours and weights. **Nothing is styled unless colours are on**, so the same
text serves terminals and files.
-/

namespace JavaDeps.Terminal

/-- A way to set text off. -/
inductive Style where
  | green
  | blue
  | yellow
  | red
  | bold
  | dimmed
  deriving DecidableEq, Repr

namespace Style

/-- The number that switches a style on. -/
def onCode : Style → Nat
  | bold => 1
  | dimmed => 2
  | red => 31
  | green => 32
  | yellow => 33
  | blue => 34

/-- The number that switches a style off: colours have one of their own, weights take all styles
with them. -/
def offCode : Style → Nat
  | bold | dimmed => 0
  | green | blue | yellow | red => 39

/-- A control sequence. -/
def sequence (code : Nat) : String := "\x1b[" ++ toString code ++ "m"

/-- A text in a style. -/
def apply (style : Style) (text : String) : String :=
  sequence style.onCode ++ text ++ sequence style.offCode

end Style

/-- A text in some styles, the first innermost, if colours are on. -/
def paint (colours : Bool) (styles : List Style) (text : String) : String :=
  if colours then styles.foldl (fun t style ↦ style.apply t) text else text

end JavaDeps.Terminal
