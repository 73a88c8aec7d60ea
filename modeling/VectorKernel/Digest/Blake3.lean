/-!
# BLAKE3

The 256-bit BLAKE3 hash. The input is cut into chunks of 1024 bytes, each chunk
is compressed block by block, and the chunks are joined pairwise in a binary
tree whose left branches are full.
-/

namespace VectorKernel.Digest.Blake3

/-- Sixteen words: a state of the compression, or a block of the message. -/
abbrev Words := Vector UInt32 16

/-- The eight words that are passed on between compressions. -/
abbrev Chain := Vector UInt32 8

/-- The initial chain. -/
def initial : Chain :=
  #v[0x6A09E667, 0xBB67AE85, 0x3C6EF372, 0xA54FF53A, 0x510E527F, 0x9B05688C, 0x1F83D9AB, 0x5BE0CD19]

/-- Marks the first block of a chunk. -/
def chunkStart : UInt32 := 1

/-- Marks the last block of a chunk. -/
def chunkEnd : UInt32 := 2

/-- Marks a block that joins two subtrees. -/
def parent : UInt32 := 4

/-- Marks the last compression of all. -/
def root : UInt32 := 8

/-- A word turned to the right. -/
def rotate (word : UInt32) (count : UInt32) : UInt32 :=
  (word >>> count) ||| (word <<< (32 - count))

/-- Mixes two message words into four words of the state. -/
def mix (state : Words) (a b c d : Fin 16) (x y : UInt32) : Words :=
  let wordA := state[a] + state[b] + x
  let wordD := rotate (state[d] ^^^ wordA) 16
  let wordC := state[c] + wordD
  let wordB := rotate (state[b] ^^^ wordC) 12
  let wordA := wordA + wordB + y
  let wordD := rotate (wordD ^^^ wordA) 8
  let wordC := wordC + wordD
  let wordB := rotate (wordB ^^^ wordC) 7
  (((state.set a wordA).set b wordB).set c wordC).set d wordD

/-- The mixings of a round: four places of the state and two of the block.
Columns come first, then diagonals. -/
def schedule : List (Fin 16 × Fin 16 × Fin 16 × Fin 16 × Fin 16 × Fin 16) :=
  [(0, 4, 8, 12, 0, 1), (1, 5, 9, 13, 2, 3), (2, 6, 10, 14, 4, 5), (3, 7, 11, 15, 6, 7),
    (0, 5, 10, 15, 8, 9), (1, 6, 11, 12, 10, 11), (2, 7, 8, 13, 12, 13), (3, 4, 9, 14, 14, 15)]

/-- One round over a block. -/
def round (state block : Words) : Words :=
  schedule.foldl (fun state (a, b, c, d, i, j) => mix state a b c d block[i] block[j]) state

/-- The order in which a round finds the words of the round before. -/
def permutation : Vector (Fin 16) 16 :=
  #v[2, 6, 3, 10, 7, 0, 4, 13, 1, 11, 12, 5, 9, 14, 15, 8]

/-- The block as the next round sees it. -/
def permute (block : Words) : Words :=
  permutation.map fun place => block[place]

/-- Rounds over a block, permuted from one to the next. -/
def rounds : Nat → (state block : Words) → Words
  | 0, state, _ => state
  | count + 1, state, block => rounds count (round state block) (permute block)

/-- A compression that is still to be done. -/
structure Pending where
  chain : Chain
  block : Words
  counter : Nat
  length : Nat
  flags : UInt32

/-- Carries out a compression. -/
def Pending.compress (pending : Pending) : Chain :=
  let tail : Vector UInt32 4 :=
    #v[.ofNat pending.counter, .ofNat (pending.counter / Nat.pow 2 32), .ofNat pending.length, pending.flags]
  let state : Words := (pending.chain ++ initial.take 4 ++ tail).cast (by decide)
  let state := rounds 7 state pending.block
  .ofFn fun i => state.get ⟨i.val, by omega⟩ ^^^ state.get ⟨i.val + 8, by omega⟩

/-- The word at a place of a block of bytes, least byte first. Bytes beyond the
end are zero. -/
def wordAt (bytes : ByteArray) (start : Nat) : UInt32 :=
  let byte (offset : Nat) : UInt32 := (bytes[start + offset]?.getD 0).toUInt32
  byte 0 ||| (byte 1 <<< 8) ||| (byte 2 <<< 16) ||| (byte 3 <<< 24)

/-- The block of at most 64 bytes from a place on. -/
def blockAt (bytes : ByteArray) (start : Nat) : Words :=
  .ofFn fun i => wordAt bytes (start + 4 * i.val)

/-- Compresses the blocks of a chunk up to the last one, which is left pending.
The first argument counts the blocks after the current one. -/
def chunkFrom (bytes : ByteArray) (counter : Nat) : Nat → (start : Nat) → Chain → UInt32 → Pending
  | 0, start, chain, flags =>
    { chain, block := blockAt bytes start, counter, length := bytes.size - start,
      flags := flags ||| chunkEnd }
  | more + 1, start, chain, flags =>
    let pending : Pending := { chain, block := blockAt bytes start, counter, length := 64, flags }
    chunkFrom bytes counter more (start + 64) pending.compress 0

/-- The last compression of a chunk of at most 1024 bytes. -/
def chunk (counter : Nat) (bytes : ByteArray) : Pending :=
  chunkFrom bytes counter ((bytes.size - 1) / 64) 0 initial chunkStart

/-- The compression that joins two subtrees. -/
def join (left right : Chain) : Pending :=
  { chain := initial, block := (left ++ right).cast (by decide), counter := 0, length := 64, flags := parent }

/-- The number of chunks in the left branch of a tree: the largest power of two
below the number of all chunks. -/
def leftCount (count : Nat) : Nat :=
  Nat.pow 2 (count - 1).log2

/-- Some part of a message stands on the left of every cut. -/
theorem leftCount_pos (count : Nat) : 0 < leftCount count :=
  Nat.two_pow_pos _

/-- Of several chunks at least one is left for the right side, so both sides are shorter than the
whole. -/
theorem leftCount_lt {count : Nat} (several : 2 ≤ count) : leftCount count < count := by
  have bound : Nat.pow 2 (count - 1).log2 ≤ count - 1 := Nat.log2_self_le (by omega)
  unfold leftCount
  omega

/-- The last compression of a tree over chunks, of which the first has the
given number. -/
def tree (counter : Nat) : List ByteArray → Pending
  | [] => chunk counter .empty
  | [only] => chunk counter only
  | first :: second :: rest =>
    let chunks := first :: second :: rest
    let count := leftCount chunks.length
    join (tree counter (chunks.take count)).compress (tree (counter + count) (chunks.drop count)).compress
  termination_by chunks => chunks.length
  decreasing_by
    · have bound : leftCount (first :: second :: rest).length < (first :: second :: rest).length :=
        leftCount_lt (by simp)
      simp only [List.length_take]
      omega
    · have positive := leftCount_pos (first :: second :: rest).length
      simp only [List.length_drop, List.length_cons] at *
      omega

/-- The chunks of a message from a place on, given their number. -/
def chunksFrom (bytes : ByteArray) : Nat → (start : Nat) → List ByteArray
  | 0, _ => []
  | count + 1, start => bytes.extract start (start + 1024) :: chunksFrom bytes count (start + 1024)

/-- The chunks of a message. The empty message has one empty chunk. -/
def chunks (bytes : ByteArray) : List ByteArray :=
  chunksFrom bytes ((bytes.size - 1) / 1024 + 1) 0

/-- The eight words of the hash of a message. -/
def hash (bytes : ByteArray) : Chain :=
  let last := tree 0 (chunks bytes)
  { last with counter := 0, flags := last.flags ||| root }.compress

/-- The two hexadecimal digits of each byte of a word, least byte first. -/
def wordHex (word : UInt32) : List Char :=
  (List.range 4).flatMap fun place =>
    let byte := word.toNat / Nat.pow 256 place % 256
    [Nat.digitChar (byte / 16), Nat.digitChar (byte % 16)]

/-- The hash of a message in 64 hexadecimal digits. -/
def hexDigest (bytes : ByteArray) : String :=
  .ofList ((hash bytes).toList.flatMap wordHex)

end VectorKernel.Digest.Blake3
