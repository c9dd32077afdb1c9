import JavaDeps.Proofs.Java.Tiling
import JavaDeps.Proofs.Text.Encoding
import Mathlib.Order.Bounds.Image

/-!
# Where text blocks end

A text block is measured in characters: `textBlockLength?` passes over two of them at a backslash.
Here its end is looked for **byte by byte**, by a position that moves on by two bytes at a backslash
(`closeTextBlock`). Such a position may lie inside a character, or past the end, and there a text
can neither be cut nor be left: either is a fault (`CutFault`).

No fault ever comes (`closeTextBlockFrom_eq`). A text is cut only where a quote stands, and left
only behind three quotes or at its end; the byte of a quote is no part of a longer character. For
the same reason both readings agree (`closingLength?_flatMap`): a backslash escapes the first byte
of a character, and the other bytes of that character are passed over.

Both are measured against the positions of all delimiters that are not escaped
(`unescapedDelimiters`), where a backslash escapes **the byte after it**. The block ends behind the
first of them.
-/

namespace JavaDeps.Java

open Utf8 (encode)

/-- The byte of a backslash, which hides the byte behind it. -/
def backslashByte : UInt8 := 0x5C

/-- The byte of a double quote. -/
def quoteByte : UInt8 := 0x22

/-- The bytes that close a text block. -/
def closingQuotes : List UInt8 := [quoteByte, quoteByte, quoteByte]

theorem not_closingQuotes_of_ne {b : UInt8} (hb : b ≠ quoteByte) (rest : List UInt8) :
    ¬ closingQuotes <+: b :: rest :=
  fun h ↦ hb (List.cons_prefix_cons.1 h).1.symm

/-! ### Reading by position -/

/-- What goes wrong at a position inside a character or past the end. -/
inductive CutFault where
  /-- The text is cut there. -/
  | slice (position : Nat)
  /-- The text is left there. -/
  | bump (position : Nat)
  deriving DecidableEq, Repr

section

variable {text : String} {i : Nat}

/-- The bytes of a text from a position on. It is an error to cut a text in the middle of a
character, or behind its end. -/
def sliceFrom (text : String) (i : Nat) : Except CutFault (List UInt8) :=
  if String.Pos.Raw.IsValid text ⟨i⟩ then .ok ((encode text).drop i) else .error (.slice i)

theorem sliceFrom_eq (h : String.Pos.Raw.IsValid text ⟨i⟩) :
    sliceFrom text i = .ok ((encode text).drop i) :=
  if_pos h

/-- Leaves a text at a position, which must be one between two characters or at its end. -/
def bumpTo (text : String) (i : Nat) : Except CutFault Nat :=
  if String.Pos.Raw.IsValid text ⟨i⟩ then .ok i else .error (.bump i)

theorem bumpTo_eq (h : String.Pos.Raw.IsValid text ⟨i⟩) : bumpTo text i = .ok i :=
  if_pos h

/-- Looks for the end of a text block in the text behind its opening delimiter, from a position on:
whether the block is closed, and the position where the text is left. Whatever byte is read, the
position moves on. -/
def closeTextBlockFrom (text : String) (i : Nat) : Except CutFault (Bool × Nat) :=
  match h : (encode text)[i]? with
  | none => do return (false, ← bumpTo text (encode text).length)
  | some b =>
    if b = backslashByte then closeTextBlockFrom text (i + 2)
    else if b = quoteByte then do
      if closingQuotes.isPrefixOf (← sliceFrom text i) then return (true, ← bumpTo text (i + 3))
      closeTextBlockFrom text (i + 1)
    else closeTextBlockFrom text (i + 1)
termination_by (encode text).length - i
decreasing_by all_goals
  obtain ⟨hi, -⟩ := List.getElem?_eq_some_iff.1 h
  omega

/-- Looks for the end of a text block in the text behind its opening delimiter. -/
def closeTextBlock (text : String) : Except CutFault (Bool × Nat) := closeTextBlockFrom text 0

end

/-! ### Reading the bytes ahead -/

/-- The length in bytes of a text block's rest through its first unescaped closing delimiter. A
backslash escapes the byte after it. -/
def closingLength? : List UInt8 → Option Nat
  | [] => none
  | b :: rest =>
    if b = backslashByte then (closingLength? (rest.drop 1)).map (· + 2)
    else if closingQuotes <+: b :: rest then some 3
    else (closingLength? rest).map (· + 1)
termination_by bytes => bytes.length
decreasing_by all_goals simp only [List.length_cons, List.length_drop]; omega

@[simp] theorem closingLength?_nil : closingLength? [] = none := by
  rw [closingLength?]

theorem closingLength?_backslash (rest : List UInt8) :
    closingLength? (backslashByte :: rest) = (closingLength? (rest.drop 1)).map (· + 2) := by
  rw [closingLength?, if_pos rfl]

theorem closingLength?_quotes {bytes : List UInt8} (h : closingQuotes <+: bytes) :
    closingLength? bytes = some 3 := by
  obtain ⟨after, rfl⟩ := h
  rw [closingQuotes, List.cons_append, closingLength?, if_neg (by decide), if_pos ⟨after, rfl⟩]

theorem closingLength?_cons {b : UInt8} {rest : List UInt8} (hb : b ≠ backslashByte)
    (hopen : ¬ closingQuotes <+: b :: rest) :
    closingLength? (b :: rest) = (closingLength? rest).map (· + 1) := by
  rw [closingLength?, if_neg hb, if_neg hopen]

/-- Where a text block ends that goes on at a position: whether it is closed, and the position
behind it. -/
def endingFrom (bytes : List UInt8) (i : Nat) : Bool × Nat :=
  match closingLength? (bytes.drop i) with
  | some n => (true, i + n)
  | none => (false, bytes.length)

section

variable {bytes : List UInt8} {i : Nat}

/-- Bytes that are passed over do not change where the block ends. -/
theorem endingFrom_add {k : Nat}
    (h : closingLength? (bytes.drop i) = (closingLength? (bytes.drop (i + k))).map (· + k)) :
    endingFrom bytes (i + k) = endingFrom bytes i := by
  rw [endingFrom, endingFrom, h]
  rcases closingLength? (bytes.drop (i + k)) with - | n
  · rfl
  · simp only [Option.map_some, Prod.mk.injEq, true_and]
    omega

theorem drop_eq_cons_of_getElem? {b : UInt8} (h : bytes[i]? = some b) :
    bytes.drop i = b :: bytes.drop (i + 1) := by
  obtain ⟨hi, rfl⟩ := List.getElem?_eq_some_iff.1 h
  exact List.drop_eq_getElem_cons hi

theorem endingFrom_end (h : bytes[i]? = none) : endingFrom bytes i = (false, bytes.length) := by
  rw [endingFrom, List.drop_eq_nil_of_le (List.getElem?_eq_none_iff.1 h), closingLength?_nil]

theorem endingFrom_backslash (h : bytes[i]? = some backslashByte) :
    endingFrom bytes (i + 2) = endingFrom bytes i :=
  endingFrom_add
    (by rw [drop_eq_cons_of_getElem? h, closingLength?_backslash, List.drop_drop])

theorem endingFrom_quotes (h : closingQuotes <+: bytes.drop i) :
    endingFrom bytes i = (true, i + 3) := by
  rw [endingFrom, closingLength?_quotes h]

theorem endingFrom_succ {b : UInt8} (h : bytes[i]? = some b) (hb : b ≠ backslashByte)
    (hopen : ¬ closingQuotes <+: bytes.drop i) : endingFrom bytes (i + 1) = endingFrom bytes i := by
  rw [drop_eq_cons_of_getElem? h] at hopen
  exact endingFrom_add (by rw [drop_eq_cons_of_getElem? h, closingLength?_cons hb hopen])

end

/-- A text can be left behind three quotes. -/
theorem isValid_of_closingQuotes {text : String} {i : Nat}
    (h : closingQuotes <+: (encode text).drop i) : String.Pos.Raw.IsValid text ⟨i + 3⟩ := by
  obtain ⟨after, hafter⟩ := h
  have hlast : (encode text)[i + 2]? = some quoteByte := by
    rw [← List.getElem?_drop, ← hafter]
    rfl
  exact (Utf8.isValid_of_getElem?_encode (by decide) hlast).2

/-- **The search never goes wrong**, not even at a position that a backslash has moved into a
character. -/
theorem closeTextBlockFrom_eq (text : String) (i : Nat) :
    closeTextBlockFrom text i = .ok (endingFrom (encode text) i) := by
  fun_induction closeTextBlockFrom text i with
  | case1 i h =>
    have hend : String.Pos.Raw.IsValid text ⟨(encode text).length⟩ :=
      Utf8.length_encode text ▸ String.Pos.Raw.isValid_rawEndPos
    rw [bumpTo_eq hend, endingFrom_end h]
    rfl
  | case2 i h ih => rw [ih, endingFrom_backslash h]
  | case3 i h hb ih =>
    -- the byte of a quote is a character by itself, so the text can be cut before it
    rw [sliceFrom_eq (Utf8.isValid_of_getElem?_encode (by decide) h).1]
    by_cases hclosed : closingQuotes <+: (encode text).drop i
    · rw [endingFrom_quotes hclosed, bumpTo_eq (isValid_of_closingQuotes hclosed)]
      exact if_pos (List.isPrefixOf_iff_prefix.2 hclosed)
    · rw [← endingFrom_succ h hb hclosed, ← ih]
      exact if_neg (mt List.isPrefixOf_iff_prefix.1 hclosed)
  | case4 i b h hb hquote ih =>
    have hopen : ¬ closingQuotes <+: (encode text).drop i :=
      drop_eq_cons_of_getElem? h ▸ not_closingQuotes_of_ne hquote _
    rw [ih, endingFrom_succ h hb hopen]

/-! ### Delimiters that are not escaped -/

/-- Whether all backslashes of some bytes escape a byte of them, read from left to right. -/
inductive PairedBytes : List UInt8 → Prop
  | nil : PairedBytes []
  | escape (b : UInt8) {bytes : List UInt8} (h : PairedBytes bytes) :
    PairedBytes (backslashByte :: b :: bytes)
  | plain {b : UInt8} {bytes : List UInt8} (hb : b ≠ backslashByte) (h : PairedBytes bytes) :
    PairedBytes (b :: bytes)

/-- The positions of three quotes of which the first is not escaped: the bytes before it are bytes
that need no escape, and escapes that are complete. -/
def unescapedDelimiters (bytes : List UInt8) : Set Nat :=
  {i | PairedBytes (bytes.take i) ∧ closingQuotes <+: bytes.drop i}

/-- A backslash at the end escapes nothing. -/
theorem not_pairedBytes_backslash : ¬ PairedBytes [backslashByte] := by
  rintro (_ | _ | ⟨hb, -⟩)
  exact hb rfl

/-- An escape in front makes no difference to whether all escapes are complete. -/
theorem pairedBytes_escape_iff {b : UInt8} {bytes : List UInt8} :
    PairedBytes (backslashByte :: b :: bytes) ↔ PairedBytes bytes := by
  constructor
  · rintro (_ | ⟨-, h⟩ | ⟨hb, -⟩)
    · exact h
    · exact absurd rfl hb
  · exact .escape b

/-- A byte other than a backslash in front makes no difference to whether all escapes are
complete. -/
theorem pairedBytes_cons_iff {b : UInt8} {bytes : List UInt8} (hb : b ≠ backslashByte) :
    PairedBytes (b :: bytes) ↔ PairedBytes bytes := by
  constructor
  · rintro (_ | ⟨-, -⟩ | ⟨-, h⟩)
    · exact absurd rfl hb
    · exact h
  · exact .plain hb

theorem unescapedDelimiters_nil : unescapedDelimiters [] = ∅ := by
  ext i
  simp [unescapedDelimiters, closingQuotes]

theorem unescapedDelimiters_backslash : unescapedDelimiters [backslashByte] = ∅ := by
  ext i
  rcases i with - | i <;> simp [unescapedDelimiters, closingQuotes]

/-- The escaped byte starts no delimiter. -/
theorem unescapedDelimiters_escape (b : UInt8) (rest : List UInt8) :
    unescapedDelimiters (backslashByte :: b :: rest) = (· + 2) '' unescapedDelimiters rest := by
  ext i
  rcases i with - | - | i
  · simp [unescapedDelimiters, closingQuotes, backslashByte, quoteByte]
  · simp [unescapedDelimiters, not_pairedBytes_backslash]
  · simp [unescapedDelimiters, pairedBytes_escape_iff]

/-- The delimiters behind a byte are those of the rest, one byte further on. -/
theorem unescapedDelimiters_cons {b : UInt8} {rest : List UInt8} (hb : b ≠ backslashByte)
    (hopen : ¬ closingQuotes <+: b :: rest) :
    unescapedDelimiters (b :: rest) = (· + 1) '' unescapedDelimiters rest := by
  ext i
  rcases i with - | i
  · simp [unescapedDelimiters, hopen]
  · simp [unescapedDelimiters, pairedBytes_cons_iff hb]

theorem isLeast_unescapedDelimiters_zero {bytes : List UInt8} (h : closingQuotes <+: bytes) :
    IsLeast (unescapedDelimiters bytes) 0 :=
  ⟨⟨.nil, h⟩, fun i _ ↦ Nat.zero_le i⟩

/-- Whether a length reaches through the first unescaped delimiter, or there is neither. -/
def MeasuresFirst (bytes : List UInt8) : Option Nat → Prop
  | some n => ∃ i, IsLeast (unescapedDelimiters bytes) i ∧ n = i + 3
  | none => unescapedDelimiters bytes = ∅

/-- What measures the first delimiter measures it behind some more bytes, too, with these added. -/
theorem MeasuresFirst.map_add {bytes longer : List UInt8} {k : Nat} {length? : Option Nat}
    (h : MeasuresFirst bytes length?)
    (hlonger : unescapedDelimiters longer = (· + k) '' unescapedDelimiters bytes) :
    MeasuresFirst longer (length?.map (· + k)) := by
  rcases length? with - | n
  · have hempty : unescapedDelimiters bytes = ∅ := h
    exact hlonger.trans (by rw [hempty, Set.image_empty])
  · obtain ⟨i, hi, rfl⟩ := h
    have hmono : Monotone (· + k : Nat → Nat) := fun _ _ hle ↦ Nat.add_le_add_right hle k
    exact ⟨i + k, hlonger ▸ hmono.map_isLeast hi, Nat.add_right_comm i 3 k⟩

/-- **The loop measures the first delimiter that is not escaped.** -/
theorem measuresFirst_closingLength? (bytes : List UInt8) :
    MeasuresFirst bytes (closingLength? bytes) := by
  fun_induction closingLength? bytes with
  | case1 => exact unescapedDelimiters_nil
  | case2 rest ih =>
    rcases rest with - | ⟨b, rest⟩
    · rw [List.drop_nil, closingLength?_nil]
      exact unescapedDelimiters_backslash
    · exact ih.map_add (unescapedDelimiters_escape b rest)
  | case3 b rest hb hclosed => exact ⟨0, isLeast_unescapedDelimiters_zero hclosed, rfl⟩
  | case4 b rest hb hopen ih => exact ih.map_add (unescapedDelimiters_cons hb hopen)

/-- A text block has a length just if there is an unescaped delimiter, and ends behind the first
one. -/
theorem closingLength?_eq_some_iff {bytes : List UInt8} {n : Nat} :
    closingLength? bytes = some n ↔ ∃ i, IsLeast (unescapedDelimiters bytes) i ∧ n = i + 3 := by
  have hfirst := measuresFirst_closingLength? bytes
  generalize closingLength? bytes = length? at hfirst
  rcases length? with - | m
  · have hempty : unescapedDelimiters bytes = ∅ := hfirst
    simp [hempty, IsLeast]
  · obtain ⟨i, hi, rfl⟩ := hfirst
    constructor
    · rintro ⟨⟩
      exact ⟨i, hi, rfl⟩
    · rintro ⟨j, hj, rfl⟩
      rw [hi.unique hj]

/-- A text block does not end just if none of its delimiters is unescaped. -/
theorem closingLength?_eq_none_iff {bytes : List UInt8} :
    closingLength? bytes = none ↔ unescapedDelimiters bytes = ∅ := by
  have hfirst := measuresFirst_closingLength? bytes
  generalize closingLength? bytes = length? at hfirst
  rcases length? with - | m
  · exact iff_of_true rfl hfirst
  · obtain ⟨i, hi, rfl⟩ := hfirst
    exact iff_of_false (Option.some_ne_none _) hi.nonempty.ne_empty

/-! ### Bytes of characters -/

/-- Bytes that are neither backslashes nor quotes are passed over. -/
theorem closingLength?_append {skipped : List UInt8}
    (h : ∀ b ∈ skipped, b ≠ backslashByte ∧ b ≠ quoteByte) (after : List UInt8) :
    closingLength? (skipped ++ after) = (closingLength? after).map (· + skipped.length) := by
  induction skipped with
  | nil => simp
  | cons b skipped ih =>
    obtain ⟨⟨hb, hquote⟩, hskipped⟩ := List.forall_mem_cons.1 h
    rw [List.cons_append, closingLength?_cons hb (not_closingQuotes_of_ne hquote _), ih hskipped,
      Option.map_map]
    rfl

/-- A character with the byte of a backslash or of a quote is one. -/
theorem ne_of_mem_utf8EncodeChar {c : Char} (hbackslash : c ≠ '\\') (hquote : c ≠ '"') :
    ∀ b ∈ String.utf8EncodeChar c, b ≠ backslashByte ∧ b ≠ quoteByte := by
  refine fun b hb ↦ ⟨?_, ?_⟩
  · rintro rfl
    exact hbackslash (Utf8.utf8EncodeChar_eq_of_mem (by decide) hb).1
  · rintro rfl
    exact hquote (Utf8.utf8EncodeChar_eq_of_mem (by decide) hb).1

/-- Behind the first byte of a character there is neither a backslash nor a quote. -/
theorem ne_of_mem_tail_utf8EncodeChar (c : Char) :
    ∀ b ∈ (String.utf8EncodeChar c).tail, b ≠ backslashByte ∧ b ≠ quoteByte := by
  have hascii {b : UInt8} (hb : b < 0x80) : b ∉ (String.utf8EncodeChar c).tail := by
    intro hmem
    rw [(Utf8.utf8EncodeChar_eq_of_mem hb (List.mem_of_mem_tail hmem)).2] at hmem
    cases hmem
  exact fun b hb ↦ ⟨fun h ↦ hascii (by decide) (h ▸ hb), fun h ↦ hascii (by decide) (h ▸ hb)⟩

/-- A text starts with a quote where its bytes do. -/
theorem exists_quote_cons {cs : List Char} {bytes : List UInt8}
    (h : quoteByte :: bytes <+: cs.flatMap String.utf8EncodeChar) :
    ∃ rest, cs = '"' :: rest ∧ bytes <+: rest.flatMap String.utf8EncodeChar := by
  rcases cs with - | ⟨c, rest⟩
  · cases List.prefix_nil.1 h
  obtain ⟨lead, more, hbytes, -⟩ := Utf8.step_encoded c []
  rw [List.flatMap_cons, hbytes, List.cons_append] at h
  obtain ⟨rfl, hprefix⟩ := List.cons_prefix_cons.1 h
  obtain ⟨hc, hquote⟩ := Utf8.utf8EncodeChar_eq_of_mem (b := quoteByte) (by decide)
    (hbytes ▸ List.mem_cons_self)
  obtain rfl : more = [] := (List.cons.inj (hbytes.symm.trans hquote)).2
  exact ⟨rest, hc ▸ rfl, hprefix⟩

/-- A backslash escapes a character by its first byte: the others are passed over. -/
theorem closingLength?_escape (c : Char) (after : List UInt8) :
    closingLength? (backslashByte :: (String.utf8EncodeChar c ++ after)) =
      (closingLength? after).map (· + (c.utf8Size + 1)) := by
  obtain ⟨lead, more, hbytes, -⟩ := Utf8.step_encoded c []
  have hmore : ∀ b ∈ more, b ≠ backslashByte ∧ b ≠ quoteByte := by
    simpa [hbytes] using ne_of_mem_tail_utf8EncodeChar c
  rw [← String.length_utf8EncodeChar, hbytes, closingLength?_backslash, List.cons_append,
    List.drop_one, List.tail_cons, closingLength?_append hmore, Option.map_map]
  rfl

/-- A character that neither escapes nor closes is passed over. -/
theorem closingLength?_plain {c : Char} {rest : List Char}
    (hescape : ∀ d more, c = '\\' → rest ≠ d :: more)
    (hopen : ∀ more, c = '"' → rest ≠ '"' :: '"' :: more) :
    closingLength? (String.utf8EncodeChar c ++ rest.flatMap String.utf8EncodeChar) =
      (closingLength? (rest.flatMap String.utf8EncodeChar)).map (· + c.utf8Size) := by
  by_cases hbackslash : c = '\\'
  · rcases rest with - | ⟨d, more⟩
    · have hbytes : String.utf8EncodeChar c = [backslashByte] := hbackslash ▸ by decide
      rw [List.flatMap_nil, hbytes, List.append_nil, closingLength?_backslash, List.drop_nil,
        closingLength?_nil]
      rfl
    · exact absurd rfl (hescape d more hbackslash)
  by_cases hquote : c = '"'
  · have hbytes : String.utf8EncodeChar c = [quoteByte] := hquote ▸ by decide
    have hnot : ¬ closingQuotes <+: quoteByte :: rest.flatMap String.utf8EncodeChar := by
      intro h
      obtain ⟨one, rfl, hone⟩ := exists_quote_cons (List.cons_prefix_cons.1 h).2
      obtain ⟨two, rfl, -⟩ := exists_quote_cons hone
      exact hopen two hquote rfl
    rw [hbytes, List.singleton_append, closingLength?_cons (by decide) hnot, hquote]
    rfl
  · rw [closingLength?_append (ne_of_mem_utf8EncodeChar hbackslash hquote),
      String.length_utf8EncodeChar]

/-- **Both readings agree**, the one by bytes and the one by characters. -/
theorem closingLength?_flatMap (cs : List Char) :
    closingLength? (cs.flatMap String.utf8EncodeChar) =
      (textBlockLength? cs).map fun n ↦ byteLength (cs.take n) := by
  fun_induction textBlockLength? cs with
  | case1 c rest ih =>
    have hbytes : String.utf8EncodeChar '\\' = [backslashByte] := by decide
    rw [List.flatMap_cons, hbytes, List.singleton_append, List.flatMap_cons, closingLength?_escape,
      ih, Option.map_map, Option.map_map]
    congr 1
    funext n
    show byteLength (rest.take n) + (c.utf8Size + 1) = 1 + (c.utf8Size + byteLength (rest.take n))
    omega
  | case2 after =>
    exact closingLength?_quotes ⟨after.flatMap String.utf8EncodeChar, rfl⟩
  | case3 c rest hescape hopen ih =>
    rw [List.flatMap_cons, closingLength?_plain hescape hopen, ih, Option.map_map, Option.map_map]
    congr 1
    funext n
    exact Nat.add_comm _ _
  | case4 => exact closingLength?_nil

/-! ### The end of a text block -/

/-- The piece that is cut off at the opening delimiter of a text block. -/
def textBlockPiece (text : String) : Piece := pieceAt '"' ('"' :: '"' :: text.toList)

theorem textBlockPiece_eq (text : String) :
    textBlockPiece text = enclosedPiece (.token .textBlock) .textBlock 2 text.toList
      (textBlockLength? text.toList) := rfl

/-- Where that piece ends in the text behind the delimiter: whether it is a text block that is
closed, and the position behind it. -/
def textBlockEnd (text : String) : Bool × Nat :=
  let piece := textBlockPiece text
  (piece.kind == .token .textBlock, byteLength (text.toList.take (piece.more - 2)))

/-- Where a text block ends is told by the bytes of the text. -/
theorem textBlockEnd_eq (text : String) :
    textBlockEnd text = match closingLength? (encode text) with
      | some n => (true, n)
      | none => (false, text.utf8ByteSize) := by
  rw [textBlockEnd, textBlockPiece_eq, Utf8.encode_eq, closingLength?_flatMap]
  rcases textBlockLength? text.toList with - | n
  · simp [enclosedPiece, byteLength_eq]
  · simp [enclosedPiece]

/-- **Closing a text block never goes wrong**: all slices are taken in range, between characters. -/
theorem closeTextBlock_eq (text : String) : closeTextBlock text = .ok (textBlockEnd text) := by
  rw [closeTextBlock, closeTextBlockFrom_eq, endingFrom, List.drop_zero, Utf8.length_encode,
    textBlockEnd_eq]
  cases closingLength? (encode text) <;> simp

/-- **A text block ends behind its first unescaped delimiter.** For any text behind the opening
delimiter, the search by bytes comes to an end without going wrong, and it ends where the block is
cut off. Without an unescaped delimiter, and only then, the block is not closed and the whole text
is read. -/
theorem textBlock_ends_at_first_delimiter (text : String) :
    closeTextBlock text = .ok (textBlockEnd text) ∧
      (∀ stop, textBlockEnd text = (true, stop) ↔
        ∃ i, IsLeast (unescapedDelimiters (encode text)) i ∧ stop = i + 3) ∧
      (∀ stop, textBlockEnd text = (false, stop) ↔
        unescapedDelimiters (encode text) = ∅ ∧ stop = text.utf8ByteSize) := by
  refine ⟨closeTextBlock_eq text, fun stop ↦ ?_, fun stop ↦ ?_⟩
  · rw [← closingLength?_eq_some_iff, textBlockEnd_eq]
    cases closingLength? (encode text) <;> simp
  · rw [← closingLength?_eq_none_iff, textBlockEnd_eq]
    cases closingLength? (encode text) <;> simp [eq_comm]

end JavaDeps.Java
