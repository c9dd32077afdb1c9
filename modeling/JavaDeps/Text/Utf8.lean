/-!
# Text in UTF-8

Bytes are read as characters from left to right. A stretch of bytes that is no character is either
*invalid*, with the number of bytes that make it so, or *incomplete*, when the bytes end inside a
character.

A reader that must go on past bad bytes works on **symbols**: a character, or `none` for a byte that
belongs to none.
-/

namespace JavaDeps.Utf8

/-- What the bytes at some place start with. -/
inductive Step where
  /-- A character, and how many bytes follow its first. -/
  | char (c : Char) (more : Nat)
  /-- So many bytes that cannot start a character. -/
  | invalid (bytes : Nat)
  /-- A character cut off by the end. -/
  | incomplete
  deriving DecidableEq, Repr

/-- Whether a byte lies in a range. -/
def inRange (low high : UInt8) (b : UInt8) : Bool := low ≤ b && b ≤ high

/-- The six bits that a continuation byte carries. -/
def payload (b : UInt8) : Nat := b.toNat % 64

/-- The bounds of the byte that may follow the lead byte of a longer character. They rule out
overlong forms, surrogates and code points past the last. -/
def secondBounds (lead : UInt8) : UInt8 × UInt8 :=
  if lead = 0xE0 then (0xA0, 0xBF)
  else if lead = 0xED then (0x80, 0x9F)
  else if lead = 0xF0 then (0x90, 0xBF)
  else if lead = 0xF4 then (0x80, 0x8F)
  else (0x80, 0xBF)

/-- Reads the remaining continuation bytes of a character whose bits so far are `bits`; `seen` bytes
came before. -/
def continueChar (bits seen : Nat) (low high : UInt8) : Nat → List UInt8 → Step
  | 0, _ => .char (Char.ofNat bits) (seen - 1)
  | _ + 1, [] => .incomplete
  | n + 1, b :: rest =>
    if inRange low high b then continueChar (bits * 64 + payload b) (seen + 1) 0x80 0xBF n rest
    else .invalid seen

/-- What the byte `lead` and those after it start with. -/
def step (lead : UInt8) (rest : List UInt8) : Step :=
  let (low, high) := secondBounds lead
  if lead < 0x80 then .char (Char.ofNat lead.toNat) 0
  else if inRange 0xC2 0xDF lead then continueChar (lead.toNat % 32) 1 low high 1 rest
  else if inRange 0xE0 0xEF lead then continueChar (lead.toNat % 16) 1 low high 2 rest
  else if inRange 0xF0 0xF4 lead then continueChar (lead.toNat % 8) 1 low high 3 rest
  else .invalid 1

/-- Where and how bytes stop being text: how many good ones come before, and how many bad ones are
there. -/
structure Fault where
  /-- The number of good bytes before. -/
  index : Nat
  /-- The number of bad bytes, or `none` when a character is cut off by the end. -/
  bytes : Option Nat
  deriving DecidableEq, Repr

/-- The text of a fault. -/
def Fault.message (f : Fault) : String :=
  match f.bytes with
  | some n =>
    "invalid utf-8 sequence of " ++ toString n ++ " bytes from index " ++ toString f.index
  | none => "incomplete utf-8 byte sequence from index " ++ toString f.index

/-- The characters of bytes that start at `index`. -/
def charsFrom (index : Nat) : List UInt8 → Except Fault (List Char)
  | [] => .ok []
  | b :: rest =>
    match step b rest with
    | .char c more => (charsFrom (index + 1 + more) (rest.drop more)).map (c :: ·)
    | .invalid n => .error ⟨index, some n⟩
    | .incomplete => .error ⟨index, none⟩
termination_by bs => bs.length
decreasing_by simp only [List.length_cons, List.length_drop]; omega

/-- The text that bytes encode. -/
def decode (bytes : List UInt8) : Except Fault String :=
  (charsFrom 0 bytes).map String.ofList

/-- A character, or a byte that belongs to none. -/
abbrev Symbol := Option Char

/-- The symbols of bytes. -/
def symbols : List UInt8 → List Symbol
  | [] => []
  | b :: rest =>
    match step b rest with
    | .char c more => some c :: symbols (rest.drop more)
    | .invalid _ | .incomplete => none :: symbols rest
termination_by bs => bs.length
decreasing_by all_goals simp only [List.length_cons, List.length_drop]; omega

/-- The symbols of a text. -/
def ofText (s : String) : List Symbol :=
  s.toList.map some

/-- The bytes of a text. -/
def encode (s : String) : List UInt8 :=
  s.toUTF8.toList

end JavaDeps.Utf8
