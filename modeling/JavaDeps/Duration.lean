/-!
# Spans of time

Limits on how long to wait, in milliseconds.
-/

namespace JavaDeps

/-- A span of time, in milliseconds. -/
structure Duration where
  millis : Nat
  deriving DecidableEq, Repr

/-- A span of time in messages: seconds with the digits they need, or milliseconds below a
second. -/
def Duration.text (d : Duration) : String :=
  if 1000 ≤ d.millis then
    let fraction := (Nat.toDigits 10 (1000 + d.millis % 1000)).drop 1
    let kept := (fraction.reverse.dropWhile (· == '0')).reverse
    toString (d.millis / 1000) ++ (if kept.isEmpty then "" else "." ++ String.ofList kept) ++ "s"
  else if d.millis = 0 then "0ns"
  else toString d.millis ++ "ms"

end JavaDeps
