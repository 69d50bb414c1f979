import SignIn.Text.Bytes

/-!
# BLAKE2b

Digests of 1 to 64 bytes without a key. A block of sixteen words is mixed into
the state in twelve rounds, each of which takes the words in another order.
-/

namespace SignIn.Blake2b

/-- The first 64 bits behind the point of the square roots of the first eight primes. -/
def initial : Array UInt64 := #[
    0x6a09e667f3bcc908, 0xbb67ae8584caa73b, 0x3c6ef372fe94f82b, 0xa54ff53a5f1d36f1,
    0x510e527fade682d1, 0x9b05688c2b3e6c1f, 0x1f83d9abfb41bd6b, 0x5be0cd19137e2179]

/-- The order in which a round takes the words of the block. -/
def orders : Array (Array Nat) := (List.map List.toArray [
    [0, 1, 2, 3, 4, 5, 6, 7, 8, 9, 10, 11, 12, 13, 14, 15],
    [14, 10, 4, 8, 9, 15, 13, 6, 1, 12, 0, 2, 11, 7, 5, 3],
    [11, 8, 12, 0, 5, 2, 15, 13, 10, 14, 3, 6, 7, 1, 9, 4],
    [7, 9, 3, 1, 13, 12, 11, 14, 2, 6, 5, 10, 4, 0, 15, 8],
    [9, 0, 5, 7, 2, 4, 10, 15, 14, 1, 11, 12, 6, 8, 3, 13],
    [2, 12, 6, 10, 0, 11, 8, 3, 4, 13, 7, 5, 15, 14, 1, 9],
    [12, 5, 1, 15, 14, 13, 4, 10, 0, 7, 6, 3, 9, 2, 8, 11],
    [13, 11, 7, 14, 12, 1, 3, 9, 5, 0, 15, 4, 8, 6, 2, 10],
    [6, 15, 14, 9, 11, 3, 0, 8, 12, 2, 13, 7, 1, 4, 10, 5],
    [10, 2, 8, 4, 7, 6, 1, 5, 15, 11, 9, 14, 3, 12, 13, 0]]).toArray

def rotate (x : UInt64) (n : UInt64) : UInt64 := (x >>> n) ||| (x <<< (64 - n))

/-- Mix two words of the block into four words of the state. -/
def mix (v : Array UInt64) (a b c d : Nat) (x y : UInt64) : Array UInt64 :=
  let va := v.getD a 0 + v.getD b 0 + x
  let vd := rotate (v.getD d 0 ^^^ va) 32
  let vc := v.getD c 0 + vd
  let vb := rotate (v.getD b 0 ^^^ vc) 24
  let va := va + vb + y
  let vd := rotate (vd ^^^ va) 16
  let vc := vc + vd
  let vb := rotate (vb ^^^ vc) 63
  (((v.setIfInBounds a va).setIfInBounds b vb).setIfInBounds c vc).setIfInBounds d vd

/-- The places of the state that the eight steps of a round take: columns, then diagonals. -/
def places : List (Nat × Nat × Nat × Nat) :=
  [(0, 4, 8, 12), (1, 5, 9, 13), (2, 6, 10, 14), (3, 7, 11, 15),
    (0, 5, 10, 15), (1, 6, 11, 12), (2, 7, 8, 13), (3, 4, 9, 14)]

/-- One of twelve rounds, with its own order of the words of the block. -/
def round (block : Array UInt64) (v : Array UInt64) (i : Nat) : Array UInt64 :=
  let order := orders.getD (i % 10) #[]
  (places.zipIdx).foldl
    (fun v p =>
      mix v p.1.1 p.1.2.1 p.1.2.2.1 p.1.2.2.2
        (block.getD (order.getD (2 * p.2) 0) 0) (block.getD (order.getD (2 * p.2 + 1) 0) 0))
    v

/-- Mix a block into the eight words of the state. `count` bytes of the message have been seen. -/
def compress (h : Array UInt64) (block : Bytes) (count : Nat) (isLast : Bool) : Array UInt64 :=
  let words := ((Bytes.pieces 7 (block ++ List.replicate (128 - block.length) 0)).map
    fun eight => UInt64.ofNat (Bytes.toNatLE eight)).toArray
  let v := h ++ initial
  let v := v.setIfInBounds 12 (v.getD 12 0 ^^^ UInt64.ofNat count)
  let v := v.setIfInBounds 13 (v.getD 13 0 ^^^ UInt64.ofNat (count >>> 64))
  let v := if isLast then v.setIfInBounds 14 (~~~ v.getD 14 0) else v
  let v := (List.range 12).foldl (round words) v
  Array.ofFn fun i : Fin 8 => h.getD i 0 ^^^ v.getD i 0 ^^^ v.getD (i + 8) 0

/-- The state after all blocks; the last block is marked. -/
def absorb (h : Array UInt64) (count : Nat) : List Bytes → Array UInt64
  | [] => compress h [] count true
  | [block] => compress h block (count + block.length) true
  | block :: rest => absorb (compress h block (count + block.length) false) (count + block.length) rest

theorem size_compress (h : Array UInt64) (block : Bytes) (count : Nat) (isLast : Bool) :
    (compress h block count isLast).size = 8 := by simp [compress]

theorem size_absorb (h : Array UInt64) (count : Nat) (blocks : List Bytes) :
    (absorb h count blocks).size = 8 := by
  fun_induction absorb h count blocks with
  | case1 => exact size_compress ..
  | case2 => exact size_compress ..
  | case3 h count block rest _ ih => exact ih

/-- The digest of a message, of the given length up to 64 bytes. -/
def digest (length : Nat) (message : Bytes) : Bytes :=
  let h := initial.setIfInBounds 0 (initial.getD 0 0 ^^^ 0x01010000 ^^^ UInt64.ofNat length)
  ((absorb h 0 (Bytes.pieces 127 message)).toList.flatMap Bytes.ofUInt64LE).take length

theorem length_flatMap_ofUInt64LE (words : List UInt64) :
    (words.flatMap Bytes.ofUInt64LE).length = 8 * words.length := by
  induction words with
  | nil => rfl
  | cons w rest ih => simp only [List.flatMap_cons, List.length_append, Bytes.length_ofUInt64LE, ih, List.length_cons]; omega

theorem length_digest {length : Nat} (h : length ≤ 64) (message : Bytes) :
    (digest length message).length = length := by
  simp only [digest, List.length_take, length_flatMap_ofUInt64LE, Array.length_toList, size_absorb]
  omega

end SignIn.Blake2b
