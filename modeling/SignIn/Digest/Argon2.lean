import SignIn.Digest.Blake2b

/-!
# Argon2

A memory of blocks is filled in passes. Each block is made from the one before it
in its lane and from an earlier block, whose place depends on the data (variant
d), only on the position (variant i), or first on the one and then on the other
(variant id). The tag is hashed from the last blocks of all lanes.
-/

namespace SignIn.Argon2

/-- How the blocks that are looked up are chosen. -/
inductive Variant where
  | d
  | i
  | id
  deriving DecidableEq, Repr

/-- The number of the variant, as it enters the seed. -/
def Variant.code : Variant → Nat
  | .d => 0
  | .i => 1
  | .id => 2

/-- Version 16 overwrites the memory in later passes; version 19 adds to it. -/
inductive Version where
  | v16
  | v19
  deriving DecidableEq, Repr

/-- The number of the version, as it enters the seed. -/
def Version.code : Version → Nat
  | .v16 => 16
  | .v19 => 19

/-- The costs of a digest, and its variant. -/
structure Params where
  variant : Variant
  version : Version
  memory : Nat
  passes : Nat
  lanes : Nat
  data : Bytes
  tagLength : Nat
  deriving DecidableEq, Repr

namespace Params

/-- The number of blocks in a quarter of a lane. -/
def segment (p : Params) : Nat := p.memory / (4 * p.lanes)

/-- Every lane has four segments. -/
def laneLength (p : Params) : Nat := 4 * p.segment

end Params

/-! ## Blocks of 128 words -/

/-- A block of 1024 bytes, as 128 words. -/
abbrev Block := Array UInt64

def Block.zero : Block := Array.replicate 128 0

def Block.xor (x y : Block) : Block := Array.zipWith (· ^^^ ·) x y

/-- Words are written from their low end. -/
def Block.ofBytes (bytes : Bytes) : Block :=
  ((Bytes.pieces 7 bytes).map fun eight => UInt64.ofNat (Bytes.toNatLE eight)).toArray

def Block.bytes (b : Block) : Bytes := b.toList.flatMap Bytes.ofUInt64LE

/-- Addition with the product of the low halves, which makes the mixing slow to unroll. -/
@[inline]
def blend (x y : UInt64) : UInt64 := x + y + 2 * (x &&& 0xffffffff) * (y &&& 0xffffffff)

@[inline]
def rotate (x : UInt64) (n : UInt64) : UInt64 := (x >>> n) ||| (x <<< (64 - n))

/-- The four words that are mixed together. -/
structure Quad where
  a : UInt64
  b : UInt64
  c : UInt64
  d : UInt64

/-- Mix four words with one another. -/
@[inline]
def mix (a b c d : UInt64) : Quad :=
  let a := blend a b
  let d := rotate (d ^^^ a) 32
  let c := blend c d
  let b := rotate (b ^^^ c) 24
  let a := blend a b
  let d := rotate (d ^^^ a) 16
  let c := blend c d
  let b := rotate (b ^^^ c) 63
  ⟨a, b, c, d⟩

/-- Mix sixteen words in place: eight pairs, `stride` words apart, from `start` on. -/
def permute (v : Block) (start stride : Nat) : Block :=
  let at1 (k : Nat) : Nat := start + k * stride
  let get (k : Nat) : UInt64 := v.getD (at1 k) 0
  let get' (k : Nat) : UInt64 := v.getD (at1 k + 1) 0
  let q0 := mix (get 0) (get 2) (get 4) (get 6)
  let q1 := mix (get' 0) (get' 2) (get' 4) (get' 6)
  let q2 := mix (get 1) (get 3) (get 5) (get 7)
  let q3 := mix (get' 1) (get' 3) (get' 5) (get' 7)
  let r0 := mix q0.a q1.b q2.c q3.d
  let r1 := mix q1.a q2.b q3.c q0.d
  let r2 := mix q2.a q3.b q0.c q1.d
  let r3 := mix q3.a q0.b q1.c q2.d
  let put (v : Block) (k : Nat) (x y : UInt64) : Block :=
    (v.setIfInBounds (at1 k) x).setIfInBounds (at1 k + 1) y
  let v := put v 0 r0.a r1.a
  let v := put v 1 r2.a r3.a
  let v := put v 2 r3.b r0.b
  let v := put v 3 r1.b r2.b
  let v := put v 4 r2.c r3.c
  let v := put v 5 r0.c r1.c
  let v := put v 6 r1.d r2.d
  put v 7 r3.d r0.d

/-- The compression of two blocks into one: rows of sixteen words, then columns. -/
def compress (x y : Block) : Block :=
  let r := x.xor y
  let q := (List.range 8).foldl (fun v i => permute v (16 * i) 2) r
  let q := (List.range 8).foldl (fun v i => permute v (2 * i) 16) q
  r.xor q

/-! ## Hashes of any length -/

def le32 (n : Nat) : Bytes := Bytes.ofUInt32LE (UInt32.ofNat n)

/-- Digests of 64 bytes, each of the one before; all but the last give their first half. -/
def chain : Nat → Nat → Bytes → Bytes
  | 0, length, v => Blake2b.digest length v
  | n + 1, length, v =>
    let v := Blake2b.digest 64 v
    v.take 32 ++ chain n (length - 32) v

/-- A hash of any length. -/
def longDigest (length : Nat) (message : Bytes) : Bytes :=
  chain (if length ≤ 64 then 0 else (length + 31) / 32 - 2) length (le32 length ++ message)

theorem length_longDigest {length : Nat} (h : length ≤ 64) (message : Bytes) :
    (longDigest length message).length = length := by
  simp [longDigest, h, chain, Blake2b.length_digest]

/-! ## Filling the memory -/

/-- The hash of all inputs, from which the first blocks are made. -/
def seed (p : Params) (password salt : Bytes) : Bytes :=
  Blake2b.digest 64 <|
    le32 p.lanes ++ le32 p.tagLength ++ le32 p.memory ++ le32 p.passes ++ le32 p.version.code ++
      le32 p.variant.code ++ le32 password.length ++ password ++ le32 salt.length ++ salt ++
      le32 0 ++ le32 p.data.length ++ p.data

/-- The first two blocks of every lane come from the seed. -/
def firstBlocks (p : Params) (seed : Bytes) : Array Block :=
  (List.range p.lanes).foldl
    (fun memory lane =>
      let block (i : Nat) := Block.ofBytes (longDigest 1024 (seed ++ le32 i ++ le32 lane))
      (memory.setIfInBounds (lane * p.laneLength) (block 0)).setIfInBounds
        (lane * p.laneLength + 1) (block 1))
    (Array.replicate (p.lanes * p.laneLength) #[])

/-- Where the filling is: the pass, the quarter of the pass, and the lane. -/
structure Place where
  pass : Nat
  slice : Nat
  lane : Nat

/-- Are the places of earlier blocks taken from the position alone? -/
def Place.byPosition (p : Params) (at1 : Place) : Bool :=
  p.variant == .i || (p.variant == .id && at1.pass == 0 && at1.slice < 2)

/-- 128 pseudorandom words that depend on the position alone. -/
def addresses (p : Params) (at1 : Place) (counter : Nat) : Block :=
  let words := [at1.pass, at1.lane, at1.slice, p.lanes * p.laneLength, p.passes, p.variant.code, counter]
  let input := (words.map UInt64.ofNat).toArray ++ Array.replicate 121 0
  compress Block.zero (compress Block.zero input)

/-- The place of the earlier block that a pseudorandom word selects. -/
def reference (p : Params) (at1 : Place) (index : Nat) (word : UInt64) : Nat :=
  let first := at1.pass == 0 && at1.slice == 0
  let lane := if first then at1.lane else (word >>> 32).toNat % p.lanes
  let same := lane == at1.lane
  let done := if at1.pass == 0 then at1.slice * p.segment else p.laneLength - p.segment
  let area := if same then done + index - 1 else if index == 0 then done - 1 else done
  let low := (word &&& 0xffffffff).toNat
  let back := (area * ((low * low) >>> 32)) >>> 32
  let start := if at1.pass == 0 then 0 else (at1.slice + 1) % 4 * p.segment
  lane * p.laneLength + (start + (area - 1 - back)) % p.laneLength

/-- Make one block, after the one before it in its lane. -/
def fillBlock (p : Params) (at1 : Place) (words : Block) (memory : Array Block) (index : Nat) :
    Array Block :=
  let column := at1.slice * p.segment + index
  let target := at1.lane * p.laneLength + column
  let previous := at1.lane * p.laneLength + (column + p.laneLength - 1) % p.laneLength
  let prev := memory.getD previous #[]
  let word := if at1.byPosition p then words.getD (index % 128) 0 else prev.getD 0 0
  let block := compress prev (memory.getD (reference p at1 index word) #[])
  let block :=
    if at1.pass == 0 || p.version == .v16 then block else block.xor (memory.getD target #[])
  memory.setIfInBounds target block

/-- Fill the blocks from `index` on, `count` of them. -/
def fillFrom (p : Params) (at1 : Place) (words : Block) (memory : Array Block) (index : Nat) :
    Nat → Array Block
  | 0 => memory
  | count + 1 =>
    let words :=
      if at1.byPosition p && (index % 128 == 0 || words.isEmpty) then addresses p at1 (index / 128 + 1)
      else words
    fillFrom p at1 words (fillBlock p at1 words memory index) (index + 1) count

/-- Fill one quarter of one lane. The first two blocks of a lane are there from the start. -/
def fillSegment (p : Params) (memory : Array Block) (at1 : Place) : Array Block :=
  let skipped := if at1.pass == 0 && at1.slice == 0 then 2 else 0
  fillFrom p at1 #[] memory skipped (p.segment - skipped)

/-- All segments in the order in which they are filled. -/
def segments (p : Params) : List Place :=
  (List.range p.passes).flatMap fun pass =>
    (List.range 4).flatMap fun slice =>
      (List.range p.lanes).map fun lane => ⟨pass, slice, lane⟩

/-- The tag of a password under a salt. -/
def digest (p : Params) (password salt : Bytes) : Bytes :=
  let memory := (segments p).foldl (fillSegment p) (firstBlocks p (seed p password salt))
  let last := (List.range p.lanes).foldl
    (fun block lane => block.xor (memory.getD (lane * p.laneLength + p.laneLength - 1) #[]))
    Block.zero
  longDigest p.tagLength last.bytes

theorem length_digest (p : Params) (h : p.tagLength ≤ 64) (password salt : Bytes) :
    (digest p password salt).length = p.tagLength :=
  length_longDigest h _

end SignIn.Argon2
