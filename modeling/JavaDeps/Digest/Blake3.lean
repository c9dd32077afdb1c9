/-!
# BLAKE3

The BLAKE3 hash of bytes. The input is cut into chunks of 1024 bytes; each chunk is folded into a
chaining value, and the values are joined pairwise in a tree whose left parts are complete. **The
last compression alone is flagged as the root**, so no chaining value of a longer input is the hash
of a shorter one.
-/

namespace JavaDeps.Blake3

/-- The initial chaining value. -/
def initial : List UInt32 :=
  [0x6A09E667, 0xBB67AE85, 0x3C6EF372, 0xA54FF53A, 0x510E527F, 0x9B05688C, 0x1F83D9AB, 0x5BE0CD19]

/-- How message words are permuted between rounds. -/
def permutation : List Nat := [2, 6, 3, 10, 7, 0, 4, 13, 1, 11, 12, 5, 9, 14, 15, 8]

/-- The flags of a compression. -/
def chunkStart : UInt32 := 1
def chunkEnd : UInt32 := 2
def parentNode : UInt32 := 4
def rootNode : UInt32 := 8

/-- The number of bytes in a block. -/
def blockSize : Nat := 64

/-- The number of bytes in a chunk. -/
def chunkSize : Nat := 1024

/-! ### Compression -/

/-- A word rotated to the right. -/
def rotateRight (x : UInt32) (n : UInt32) : UInt32 := (x >>> n) ||| (x <<< (32 - n))

/-- Four words mixed with two message words. -/
def mix (a b c d x y : UInt32) : UInt32 × UInt32 × UInt32 × UInt32 :=
  let a := a + b + x
  let d := rotateRight (d ^^^ a) 16
  let c := c + d
  let b := rotateRight (b ^^^ c) 12
  let a := a + b + y
  let d := rotateRight (d ^^^ a) 8
  let c := c + d
  let b := rotateRight (b ^^^ c) 7
  (a, b, c, d)

/-- The word at a place; words past the end are zero. -/
def word (ws : Array UInt32) (i : Nat) : UInt32 := ws[i]?.getD 0

/-- Mixes the words of the state at four places. -/
def mixAt (m : Array UInt32) (s : Array UInt32) (quarter : Nat × Nat × Nat × Nat × Nat) :
    Array UInt32 :=
  let (a, b, c, d, k) := quarter
  let (wa, wb, wc, wd) :=
    mix (word s a) (word s b) (word s c) (word s d) (word m (2 * k)) (word m (2 * k + 1))
  (((s.setIfInBounds a wa).setIfInBounds b wb).setIfInBounds c wc).setIfInBounds d wd

/-- The columns and diagonals of the state, in the order in which a round mixes them. -/
def quarters : List (Nat × Nat × Nat × Nat × Nat) :=
  [(0, 4, 8, 12, 0), (1, 5, 9, 13, 1), (2, 6, 10, 14, 2), (3, 7, 11, 15, 3),
    (0, 5, 10, 15, 4), (1, 6, 11, 12, 5), (2, 7, 8, 13, 6), (3, 4, 9, 14, 7)]

/-- So many rounds. -/
def rounds : Nat → Array UInt32 → Array UInt32 → Array UInt32
  | 0, _, s => s
  | n + 1, m, s => rounds n (permutation.map (word m)).toArray (quarters.foldl (mixAt m) s)

/-- Compresses a block of `length` bytes into a chaining value. -/
def compress (chaining block : List UInt32) (counter : Nat) (length : Nat) (flags : UInt32) :
    List UInt32 :=
  let state := chaining ++ initial.take 4
    ++ [UInt32.ofNat counter, UInt32.ofNat (counter / Nat.pow 2 32), UInt32.ofNat length, flags]
  let s := (rounds 7 block.toArray state.toArray).toList
  List.zipWith (· ^^^ ·) (s.take 8) (s.drop 8)

/-! ### Chunks -/

/-- The words of bytes, the least significant byte first; a missing byte is zero. -/
def words : Nat → List UInt8 → List UInt32
  | 0, _ => []
  | n + 1, bytes =>
    let value := ((bytes.take 4).reverse).foldl (fun w b ↦ w * 256 + b.toUInt32) 0
    value :: words n (bytes.drop 4)

/-- The words that bytes spell when they end early are those of the bytes padded with zeros: the
missing ones are the most significant of their word. -/
def blockWords (bytes : List UInt8) : List UInt32 := words 16 bytes

/-- Folds a chunk into a chaining value; `first` holds before the first block, `final` flags the
last block. -/
def chunkFrom (counter : Nat) (first : Bool) (final : UInt32) (chaining : List UInt32)
    (bytes : List UInt8) : List UInt32 :=
  let start := if first then chunkStart else 0
  let block := bytes.take blockSize
  if _h : blockSize < bytes.length then
    chunkFrom counter false final
      (compress chaining (blockWords block) counter blockSize start) (bytes.drop blockSize)
  else
    compress chaining (blockWords block) counter bytes.length (start ||| chunkEnd ||| final)
termination_by bytes.length
decreasing_by simp only [List.length_drop, blockSize] at *; omega

/-- The size of the left part of more than one chunk: the largest power of two of chunks that leaves
something to the right. `width` is a power of two of chunks below that. -/
def leftSize (chunks : Nat) : Nat → Nat → Nat
  | 0, width => width
  | fuel + 1, width => if 2 * width < chunks then leftSize chunks fuel (2 * width) else width

/-- The chaining value of a tree over chunks, of which the first has number `counter`. `depth`
bounds the height of the tree. -/
def tree (final : UInt32) (counter : Nat) : Nat → List UInt8 → List UInt32
  | 0, bytes => chunkFrom counter true final initial bytes
  | depth + 1, bytes =>
    if bytes.length ≤ chunkSize then chunkFrom counter true final initial bytes
    else
      let chunks := (bytes.length + chunkSize - 1) / chunkSize
      let width := leftSize chunks chunks 1
      let left := tree 0 counter depth (bytes.take (width * chunkSize))
      let right := tree 0 (counter + width) depth (bytes.drop (width * chunkSize))
      compress initial (left ++ right) 0 blockSize (parentNode ||| final)

/-- The four bytes of a word, the least significant first. -/
def wordBytes (w : UInt32) : List UInt8 :=
  [w.toUInt8, (w >>> 8).toUInt8, (w >>> 16).toUInt8, (w >>> 24).toUInt8]

/-- The hash of bytes. -/
def hash (bytes : List UInt8) : List UInt8 :=
  (tree rootNode 0 bytes.length bytes).flatMap wordBytes

end JavaDeps.Blake3
