import JavaDeps.Json.Token
import JavaDeps.Json.Value

/-!
# JSON as it is read

A text is read into a tree even where it is no JSON. **The tree shows how far reading came**: a
value that is broken, or a container that stops before its end, keeps everything to the left of the
fault. A decoder that walks the tree from left to right then meets the first problem first, be it a
fault of the text or a value of the wrong shape.
-/

namespace JavaDeps.Json

/-- A value as read. The last component of a container is the fault at which it stops, if it is not
closed. Fields are kept as they come, with repetitions. -/
inductive Reading where
  | null
  | bool (b : Bool)
  | number (n : Numeral)
  | string (text : Option String)
  | array (items : List Reading) (stop : Option Fault)
  | object (fields : List (String × Reading)) (stop : Option Fault)
  | broken (fault : Fault)
  deriving Inhabited

/-- A container around the value that is being read, with what it holds before in reverse, and the
key of the value if it has one. -/
inductive Frame where
  | item (before : List Reading)
  | member (before : List (String × Reading)) (key : String)

/-- The whole tree when a fault is met inside `r`: every container around it stops there. -/
def unwind (fault : Fault) (r : Reading) : List Frame → Reading
  | [] => r
  | .item before :: outer => unwind fault (.array (r :: before).reverse (some fault)) outer
  | .member before key :: outer =>
    unwind fault (.object ((key, r) :: before).reverse (some fault)) outer

/-- A text as read: its value, and whether more than blanks follow. -/
structure Document where
  root : Reading
  trailing : Bool := false

/-- A place in a text, named for what surrounds it. With the containers around it, this is all that
reading on depends on. -/
inductive State where
  /-- Where a value must come. -/
  | value (frames : List Frame)
  /-- Right after an opening bracket. -/
  | arrayStart (outer : List Frame)
  /-- After an item. -/
  | arrayRest (items : List Reading) (outer : List Frame)
  /-- Right after an opening brace. -/
  | objectStart (outer : List Frame)
  /-- Where a key must come. -/
  | key (fields : List (String × Reading)) (outer : List Frame)
  /-- After a key. -/
  | colon (fields : List (String × Reading)) (key : String) (outer : List Frame)
  /-- After a field. -/
  | objectRest (fields : List (String × Reading)) (outer : List Frame)
  /-- After the value of the whole text. -/
  | finished (root : Reading)

/-- The place after a complete value. -/
def put (r : Reading) : List Frame → State
  | [] => .finished r
  | .item before :: outer => .arrayRest (r :: before) outer
  | .member before key :: outer => .objectRest ((key, r) :: before) outer

/-- The value that a token is by itself. -/
def Token.scalar? : Token → Option Reading
  | .null => some .null
  | .bool b => some (.bool b)
  | .number n => some (.number n)
  | .string text => some (.string text)
  | _ => none

/-- The fault of a token where a value must come. -/
def Token.valueFault : Token → Fault
  | .broken fault | .brokenString fault => fault
  | _ => .malformed

/-- The fault of a token where a key must come. -/
def Token.keyFault : Token → Fault
  | .brokenString fault => fault
  | _ => .malformed

/-- Stops reading with a fault met inside `r`. -/
def stopIn (fault : Fault) (r : Reading) (outer : List Frame) : Except Document State :=
  .error { root := unwind fault r outer }

/-- Reads the first token of a value. -/
def State.startValue (frames : List Frame) (token : Token) : Except Document State :=
  match token with
  | .openBracket => .ok (.arrayStart frames)
  | .openBrace => .ok (.objectStart frames)
  | token =>
    match token.scalar? with
    | some r => .ok (put r frames)
    | none => stopIn token.valueFault (.broken token.valueFault) frames

/-- Reads one token. Where reading cannot go on, the result is the text as far as it was read. -/
def State.next (s : State) (token : Token) : Except Document State :=
  match s, token with
  | .value frames, token => startValue frames token
  | .arrayStart outer, .closeBracket => .ok (put (.array [] none) outer)
  | .arrayStart outer, token => startValue (.item [] :: outer) token
  | .arrayRest items outer, .comma => .ok (.value (.item items :: outer))
  | .arrayRest items outer, .closeBracket => .ok (put (.array items.reverse none) outer)
  | .arrayRest items outer, _ => stopIn .malformed (.array items.reverse (some .malformed)) outer
  | .objectStart outer, .closeBrace => .ok (put (.object [] none) outer)
  | .objectStart outer, .string (some k) => .ok (.colon [] k outer)
  | .objectStart outer, token => stopIn token.keyFault (.object [] (some token.keyFault)) outer
  | .key fields outer, .string (some k) => .ok (.colon fields k outer)
  | .key fields outer, token =>
    stopIn token.keyFault (.object fields.reverse (some token.keyFault)) outer
  | .colon fields k outer, .colon => .ok (.value (.member fields k :: outer))
  | .colon fields k outer, _ => stopIn .malformed (.broken .malformed) (.member fields k :: outer)
  | .objectRest fields outer, .comma => .ok (.key fields outer)
  | .objectRest fields outer, .closeBrace => .ok (put (.object fields.reverse none) outer)
  | .objectRest fields outer, _ =>
    stopIn .malformed (.object fields.reverse (some .malformed)) outer
  | .finished root, _ => .error { root, trailing := true }

/-- The text as read when no token is left. -/
def State.atEnd : State → Document
  | .value frames => { root := unwind .truncated (.broken .truncated) frames }
  | .arrayStart outer => { root := unwind .truncated (.array [] (some .truncated)) outer }
  | .arrayRest items outer =>
    { root := unwind .truncated (.array items.reverse (some .truncated)) outer }
  | .objectStart outer => { root := unwind .truncated (.object [] (some .truncated)) outer }
  | .key fields outer | .objectRest fields outer =>
    { root := unwind .truncated (.object fields.reverse (some .truncated)) outer }
  | .colon fields k outer =>
    { root := unwind .truncated (.broken .truncated) (.member fields k :: outer) }
  | .finished root => { root }

/-- Reads on from a place. -/
def readFrom (s : State) : List Token → Document
  | [] => s.atEnd
  | token :: rest =>
    match s.next token with
    | .ok s' => readFrom s' rest
    | .error document => document

/-- Reads a text. -/
def read (symbols : List Utf8.Symbol) : Document :=
  readFrom (.value []) (tokens symbols)

mutual

/-- How a written value reads. -/
def Reading.ofValue : Value → Reading
  | .null => .null
  | .bool b => .bool b
  | .nat n => .number ⟨false, Nat.toDigits 10 n, [], none⟩
  | .string s => .string (some s)
  | .array items => .array (readingsOfItems items) none
  | .object fields => .object (readingsOfFields fields) none

/-- How written items read. -/
def readingsOfItems : List Value → List Reading
  | [] => []
  | v :: rest => .ofValue v :: readingsOfItems rest

/-- How written fields read. -/
def readingsOfFields : List (String × Value) → List (String × Reading)
  | [] => []
  | (k, v) :: rest => (k, .ofValue v) :: readingsOfFields rest

end

/-! ### Faults -/

mutual

/-- The first fault of the text inside a value. Strings that are no text and numbers out of range
are none: a value that nobody looks at may hold them. -/
def Reading.fault? : Reading → Option Fault
  | .broken fault => some fault
  | .array items stop => (itemFault? items).or stop
  | .object fields stop => (fieldFault? fields).or stop
  | _ => none

/-- The first fault inside items. -/
def itemFault? : List Reading → Option Fault
  | [] => none
  | r :: rest => r.fault?.or (itemFault? rest)

/-- The first fault inside fields. -/
def fieldFault? : List (String × Reading) → Option Fault
  | [] => none
  | (_, r) :: rest => r.fault?.or (fieldFault? rest)

end

end JavaDeps.Json
