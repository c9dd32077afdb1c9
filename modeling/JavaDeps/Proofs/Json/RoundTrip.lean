import JavaDeps.Json.Decode
import JavaDeps.Proofs.Json.Spelling

/-!
# Written values read back

The reader puts a value together from its tokens, so **a written value reads as itself**, and a
decoder sees nothing of how it was written. Decoders of numbers and lists invert what writes them.
-/

namespace JavaDeps.Json

/-! ### Reading tokens -/

/-- The first token of an item is read as any first token of a value. -/
theorem readFrom_arrayStart (v : Value) (outer : List Frame) (rest : List Token) :
    readFrom (.arrayStart outer) (v.tokens ++ rest) =
      readFrom (.value (.item [] :: outer)) (v.tokens ++ rest) := by
  cases v <;> rfl

/-- An array that is not empty begins with an item. -/
theorem readFrom_arrayStart_itemTokens {items : List Value} (hne : items ≠ []) (outer : List Frame)
    (rest : List Token) :
    readFrom (.arrayStart outer) (itemTokens items ++ rest) =
      readFrom (.value (.item [] :: outer)) (itemTokens items ++ rest) := by
  match items with
  | [v] => exact readFrom_arrayStart v outer rest
  | v :: w :: items =>
    rw [itemTokens, List.append_assoc]
    · exact readFrom_arrayStart v outer _
    · simp

/-- An object that is not empty begins with a key. -/
theorem readFrom_objectStart_fieldTokens {fields : List (String × Value)} (hne : fields ≠ [])
    (outer : List Frame) (rest : List Token) :
    readFrom (.objectStart outer) (fieldTokens fields ++ rest) =
      readFrom (.key [] outer) (fieldTokens fields ++ rest) := by
  match fields with
  | [(k, v)] => rfl
  | (k, v) :: g :: fields => rfl

mutual

/-- A value is put together from its tokens. -/
theorem readFrom_tokens (v : Value) (frames : List Frame) (rest : List Token) :
    readFrom (.value frames) (v.tokens ++ rest) = readFrom (put (.ofValue v) frames) rest := by
  cases v with
  | null => rfl
  | bool b => rfl
  | nat n => rfl
  | string s => rfl
  | array items =>
    by_cases hne : items = []
    · rw [hne]
      rfl
    · have hitems := readFrom_itemTokens items hne [] frames rest
      rw [List.reverse_nil, List.nil_append] at hitems
      rw [Value.tokens, List.cons_append, List.cons_append, List.append_assoc,
        List.singleton_append, Reading.ofValue, ← hitems, ← readFrom_arrayStart_itemTokens hne]
      rfl
  | object fields =>
    by_cases hne : fields = []
    · rw [hne]
      rfl
    · have hfields := readFrom_fieldTokens fields hne [] frames rest
      rw [List.reverse_nil, List.nil_append] at hfields
      rw [Value.tokens, List.cons_append, List.cons_append, List.append_assoc,
        List.singleton_append, Reading.ofValue, ← hfields, ← readFrom_objectStart_fieldTokens hne]
      rfl

-- `before` has the items that are read already, the last one first.
/-- Items are read one after another up to the bracket, behind those that were read before. -/
theorem readFrom_itemTokens (items : List Value) (hne : items ≠ []) (before : List Reading)
    (outer : List Frame) (rest : List Token) :
    readFrom (.value (.item before :: outer)) (itemTokens items ++ .closeBracket :: rest) =
      readFrom (put (.array (before.reverse ++ readingsOfItems items) none) outer) rest := by
  match items with
  | [v] =>
    rw [itemTokens, readFrom_tokens v]
    show readFrom (put (.array (Reading.ofValue v :: before).reverse none) outer) rest = _
    rw [List.reverse_cons]
    rfl
  | v :: w :: items =>
    rw [itemTokens, List.append_assoc, readFrom_tokens v]
    · show readFrom (.value (.item (Reading.ofValue v :: before) :: outer))
        (itemTokens (w :: items) ++ .closeBracket :: rest) = _
      rw [readFrom_itemTokens (w :: items) (List.cons_ne_nil _ _), List.reverse_cons,
        List.append_assoc]
      rfl
    · simp

/-- Fields are read one after another up to the brace, behind those that were read before. -/
theorem readFrom_fieldTokens (fields : List (String × Value)) (hne : fields ≠ [])
    (before : List (String × Reading)) (outer : List Frame) (rest : List Token) :
    readFrom (.key before outer) (fieldTokens fields ++ .closeBrace :: rest) =
      readFrom (put (.object (before.reverse ++ readingsOfFields fields) none) outer) rest := by
  match fields with
  | [(k, v)] =>
    rw [fieldTokens]
    show readFrom (.value (.member before k :: outer)) (v.tokens ++ .closeBrace :: rest) = _
    rw [readFrom_tokens v]
    show readFrom (put (.object ((k, Reading.ofValue v) :: before).reverse none) outer) rest = _
    rw [List.reverse_cons]
    rfl
  | (k, v) :: g :: fields =>
    rw [fieldTokens]
    · show readFrom (.value (.member before k :: outer))
        ((v.tokens ++ .comma :: fieldTokens (g :: fields)) ++ .closeBrace :: rest) = _
      rw [List.append_assoc, readFrom_tokens v]
      show readFrom (.key ((k, Reading.ofValue v) :: before) outer)
        (fieldTokens (g :: fields) ++ .closeBrace :: rest) = _
      rw [readFrom_fieldTokens (g :: fields) (List.cons_ne_nil _ _), List.reverse_cons,
        List.append_assoc]
      rfl
    · simp

end

/-- A text whose tokens are those of a value reads as that value, and nothing follows it. -/
theorem read_of_tokens {v : Value} {symbols : List Utf8.Symbol} (h : tokens symbols = v.tokens) :
    read symbols = { root := .ofValue v } := by
  have hread := readFrom_tokens v [] []
  rw [List.append_nil] at hread
  rw [read, h, hread]
  rfl

/-- **A written value reads as itself.** -/
theorem read_compact (v : Value) : read (Utf8.ofText v.compact) = { root := .ofValue v } := by
  have htokens := tokens_chars v delimited_nil
  rw [tokens, List.append_nil, List.append_nil] at htokens
  rw [Utf8.ofText, Value.compact, String.toList_ofList, read_of_tokens htokens]

/-- **A decoder of a written value sees the value.** -/
theorem decodeText_compact {α : Type} (decoder : Decoder α) (v : Value) :
    decodeText decoder v.compact = decoder (.ofValue v) := by
  rw [decodeText, decodeSymbols, read_compact, Document.decode]
  cases decoder (.ofValue v) <;> rfl

/-! ### Decoding what was written -/

/-- A number is decoded again if it fits into the bits that it is decoded to. -/
theorem decodeUInt_ofValue {bits n : Nat} (expected : String) (hbits : bits ≤ 64)
    (hn : n < Nat.pow 2 bits) : decodeUInt bits expected (.ofValue (.nat n)) = .ok n := by
  have hmax : n ≤ maxUInt64 := by
    have hle : Nat.pow 2 bits ≤ Nat.pow 2 64 := Nat.pow_le_pow_right (by decide) hbits
    exact Nat.le_sub_one_of_lt (Nat.lt_of_lt_of_le hn hle)
  have hvalue : Numeral.value ⟨false, Nat.toDigits 10 n, [], none⟩ = .ok (.nat n) := by
    simp [Numeral.value, Nat.ofDigitChars_ten_toDigits, hmax]
  rw [Reading.ofValue, decodeUInt, hvalue]
  exact if_pos hn

theorem decodeU64_ofValue {n : Nat} (hn : n < Nat.pow 2 64) :
    decodeU64 (.ofValue (.nat n)) = .ok n :=
  decodeUInt_ofValue "u64" (Nat.le_refl 64) hn

theorem decodeString_ofValue (s : String) : decodeString (.ofValue (.string s)) = .ok s := rfl

/-- What takes every item back takes the list back. -/
theorem mapM_map_eq_ok {α β ε : Type} {f : α → β} {g : β → Except ε α} {l : List α}
    (h : ∀ a ∈ l, g (f a) = .ok a) : (l.map f).mapM g = .ok l := by
  induction l with
  | nil => rfl
  | cons a l ih =>
    rw [List.forall_mem_cons] at h
    rw [List.map_cons, List.mapM_cons, h.1, ih h.2]
    rfl

theorem readingsOfItems_eq_map (items : List Value) :
    readingsOfItems items = items.map .ofValue := by
  induction items with
  | nil => rfl
  | cons v items ih => rw [readingsOfItems, ih, List.map_cons]

/-- A list is decoded item by item. -/
theorem decodeList_ofValue {α : Type} {decode : Decoder α} {toValue : α → Value} (l : List α)
    (h : ∀ a ∈ l, decode (.ofValue (toValue a)) = .ok a) :
    decodeList decode (.ofValue (.array (l.map toValue))) = .ok l := by
  have hitems : (readingsOfItems (l.map toValue)).mapM decode = .ok l := by
    rw [readingsOfItems_eq_map, List.map_map]
    exact mapM_map_eq_ok h
  rw [Reading.ofValue, decodeList, hitems]
  rfl

theorem decodeStrings_ofValue (l : List String) :
    decodeList decodeString (.ofValue (.strings l)) = .ok l :=
  decodeList_ofValue l fun s _ ↦ decodeString_ofValue s

/-- A value that may be missing is decoded again, unless it is spelled as null. -/
theorem decodeOption_ofValue {α : Type} {decode : Decoder α} {v : Value} {a : α}
    (hnull : v ≠ .null) (h : decode (.ofValue v) = .ok a) :
    decodeOption decode (.ofValue v) = .ok (some a) := by
  cases v with
  | null => exact absurd rfl hnull
  | _ =>
    show (decode _).map some = _
    rw [h]
    rfl

namespace RecordShape

variable {σ : Type} {shape : RecordShape σ}

/-- A field takes in what its decoder makes of a value. -/
theorem accept_of_decode {α : Type} {decode : Decoder α} {r : Reading} {a : α}
    (h : decode r = .ok a) (set : α → σ) : (decode r >>= fun a ↦ pure (set a)) = .ok (set a) := by
  rw [h]
  rfl

/-- A field that is known and not given before is taken in. -/
theorem acceptFields_cons {seen : List String} {record record' : σ} {name : String} {r : Reading}
    {field : Field σ} (rest : List (String × Reading))
    (hfind : shape.fields.find? (·.name == name) = some field) (hseen : seen.contains name = false)
    (haccept : field.accept r record = .ok record') :
    shape.acceptFields seen record ((name, r) :: rest) =
      shape.acceptFields (name :: seen) record' rest := by
  rw [acceptFields, hfind]
  simp only [hseen, haccept]
  rfl

/-- An object with all the fields that a record requires decodes to what its fields come to. -/
theorem decode_ofValue {fields : List (String × Value)} {record : σ} (seen : List String)
    (hfields : shape.acceptFields [] shape.blank (readingsOfFields fields) = .ok (record, seen))
    (hrequired : ∀ f ∈ shape.fields, f.required = true → seen.contains f.name = true) :
    shape.decode (.ofValue (.object fields)) = .ok record := by
  have hnone : (shape.fields.find? fun f ↦ f.required && !seen.contains f.name) = none := by
    rw [List.find?_eq_none]
    intro f hf hmissing
    rw [Bool.and_eq_true] at hmissing
    rw [hrequired f hf hmissing.1] at hmissing
    exact absurd hmissing.2 Bool.false_ne_true
  rw [Reading.ofValue, decode, hfields]
  simp only [bind, Except.bind, checkStop, hnone]
  rfl

end RecordShape

end JavaDeps.Json
