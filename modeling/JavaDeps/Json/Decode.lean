import JavaDeps.Json.Number
import JavaDeps.Json.Reading
import JavaDeps.Text.Printable

/-!
# Decoding JSON

A decoder turns what was read into a value of some type, from left to right. **The first problem
wins**, whether the text is broken there or holds something of the wrong shape.

A record is read from an object, whose unknown fields are skipped, or from an array that lists the
fields in their order. Fields that are absent, or that the array does not reach, keep their
defaults, unless they are required.
-/

namespace JavaDeps.Json

/-- What was met in place of something else, with its value where an error shows it. -/
inductive Found where
  | integer (negative : Bool) (n : Nat)
  | float (text : String)
  | bool (b : Bool)
  | string (s : String)
  | null
  | sequence
  | map
  deriving DecidableEq, Repr

/-- The text of what was met. -/
def Found.message : Found → String
  | .integer negative n => "integer `" ++ (if negative then "-" else "") ++ toString n ++ "`"
  | .float text => "floating point `" ++ text ++ "`"
  | .bool b => "boolean `" ++ toString b ++ "`"
  | .string s => "string " ++ Text.shown s
  | .null => "null"
  | .sequence => "sequence"
  | .map => "map"

/-- Why a text does not decode: it is no JSON, or it is, and does not have the shape of what is
decoded. -/
inductive DecodeError where
  /-- The text is no JSON. -/
  | fault (f : Fault)
  | missingField (name : String)
  | duplicateField (name : String)
  | invalidType (found : Found) (expected : String)
  | invalidValue (found : Found) (expected : String)
  | invalidLength (n : Nat) (expected : String)
  deriving DecidableEq, Repr

/-- The text of an error of shape; a text that is no JSON has none. -/
def DecodeError.message? : DecodeError → Option String
  | .fault _ => none
  | .missingField name => some ("missing field `" ++ name ++ "`")
  | .duplicateField name => some ("duplicate field `" ++ name ++ "`")
  | .invalidType found expected =>
    some ("invalid type: " ++ found.message ++ ", expected " ++ expected)
  | .invalidValue found expected =>
    some ("invalid value: " ++ found.message ++ ", expected " ++ expected)
  | .invalidLength n expected =>
    some ("invalid length " ++ toString n ++ ", expected " ++ expected)

/-- A decoder of one value. It is given what was read, faults included, so that errors come in the
order in which a reader of the text meets them. -/
abbrev Decoder (α : Type) := Reading → Except DecodeError α

/-- The error of a value where something else was expected. -/
def mismatch (expected : String) : Reading → DecodeError
  | .null => .invalidType .null expected
  | .bool b => .invalidType (.bool b) expected
  | .number n =>
    match n.value with
    | .ok (.nat k) => .invalidType (.integer false k) expected
    | .ok (.negative k) => .invalidType (.integer true k) expected
    | .ok (.float x) => .invalidType (.float (floatText x)) expected
    | .error f => .fault f
  | .string (some s) => .invalidType (.string s) expected
  | .string none => .fault .malformed
  | .array _ _ => .invalidType .sequence expected
  | .object _ _ => .invalidType .map expected
  | .broken f => .fault f

/-- A natural number of so many bits. -/
def decodeUInt (bits : Nat) (expected : String) : Decoder Nat := fun r ↦
  match r with
  | .number n =>
    match n.value with
    | .ok (.nat k) =>
      if k < Nat.pow 2 bits then .ok k else .error (.invalidValue (.integer false k) expected)
    | .ok (.negative k) => .error (.invalidValue (.integer true k) expected)
    | _ => .error (mismatch expected r)
  | _ => .error (mismatch expected r)

/-- A number of 32 bits. -/
def decodeU32 : Decoder Nat := decodeUInt 32 "u32"

/-- A number of 64 bits. -/
def decodeU64 : Decoder Nat := decodeUInt 64 "u64"

/-- A text. -/
def decodeString : Decoder String
  | .string (some s) => .ok s
  | r => .error (mismatch "a string" r)

/-- A value or `null`. -/
def decodeOption (decode : Decoder α) : Decoder (Option α)
  | .null => .ok none
  | r => (decode r).map some

/-- The fault at which a container stops. -/
def checkStop : Option Fault → Except DecodeError Unit
  | none => .ok ()
  | some f => .error (.fault f)

/-- A list. -/
def decodeList (decode : Decoder α) : Decoder (List α)
  | .array items stop => do
    let values ← items.mapM decode
    checkStop stop
    pure values
  | r => .error (mismatch "a sequence" r)

/-! ### Records -/

/-- A field of a record under construction of type `σ`. -/
structure Field (σ : Type) where
  name : String
  /-- Takes the field's value in. -/
  accept : Reading → σ → Except DecodeError σ
  /-- Whether a record without the field is refused. -/
  required : Bool := false

/-- A record type: its name, its fields in order, and the record in which every field has its
default. A record may be written as an object or as an array of its fields. -/
structure RecordShape (σ : Type) where
  name : String
  fields : List (Field σ)
  blank : σ

namespace RecordShape

variable {σ : Type}

/-- Takes the fields of an object in; `seen` are the names that came before. -/
def acceptFields (shape : RecordShape σ) (seen : List String) (record : σ) :
    List (String × Reading) → Except DecodeError (σ × List String)
  | [] => .ok (record, seen)
  | (name, r) :: rest =>
    match shape.fields.find? (·.name == name) with
    | none =>
      match r.fault? with
      | some f => .error (.fault f)
      | none => shape.acceptFields seen record rest
    | some field =>
      if seen.contains name then .error (.duplicateField name)
      else do
        let record ← field.accept r record
        shape.acceptFields (name :: seen) record rest

/-- What an array must be for a record with so many fields. -/
def arrayExpectation (shape : RecordShape σ) : String :=
  "struct " ++ shape.name ++ " with " ++ toString shape.fields.length ++ " elements"

/-- Takes the items of an array in, one for each field; `position` fields came before. Fields that
the array does not reach keep their defaults. -/
def acceptItems (shape : RecordShape σ) (stop : Option Fault) (position : Nat) (record : σ) :
    List (Field σ) → List Reading → Except DecodeError σ
  | [], [] => do
    checkStop stop
    pure record
  | [], _ :: _ => .error (.fault .malformed)
  | field :: fields, [] => do
    checkStop stop
    if field.required then throw (.invalidLength position shape.arrayExpectation)
    shape.acceptItems stop (position + 1) record fields []
  | field :: fields, r :: rest => do
    let record ← field.accept r record
    shape.acceptItems stop (position + 1) record fields rest

/-- Decodes a record. -/
def decode (shape : RecordShape σ) : Decoder σ
  | .object fields stop => do
    let (record, seen) ← shape.acceptFields [] shape.blank fields
    checkStop stop
    match shape.fields.find? fun f ↦ f.required && !seen.contains f.name with
    | some f => throw (.missingField f.name)
    | none => pure record
  | .array items stop => shape.acceptItems stop 0 shape.blank shape.fields items
  | r => .error (mismatch ("struct " ++ shape.name) r)

end RecordShape

/-- Decodes a whole text. -/
def Document.decode (decoder : Decoder α) (d : Document) : Except DecodeError α := do
  let value ← decoder d.root
  if d.trailing then throw (.fault .malformed)
  pure value

/-- Decodes symbols. -/
def decodeSymbols (decoder : Decoder α) (symbols : List Utf8.Symbol) : Except DecodeError α :=
  (read symbols).decode decoder

/-- Decodes a text. -/
def decodeText (decoder : Decoder α) (text : String) : Except DecodeError α :=
  decodeSymbols decoder (Utf8.ofText text)

end JavaDeps.Json
