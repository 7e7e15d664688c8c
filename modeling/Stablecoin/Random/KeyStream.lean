/-!
The key stream of the ChaCha cipher with twelve rounds: a key of eight words is
stretched into an endless sequence of words, block after block. A block mixes the
constants, the key and the number of the block, and adds what it started from.
-/
namespace Stablecoin.Random

/-- Four words: one row of a block, or one of its columns. -/
structure Quad where
  a : UInt32
  b : UInt32
  c : UInt32
  d : UInt32
deriving Repr, DecidableEq

namespace Quad

@[inline]
def zip (f : UInt32 → UInt32 → UInt32) (x y : Quad) : Quad := ⟨f x.a y.a, f x.b y.b, f x.c y.c, f x.d y.d⟩

@[inline]
def map (f : UInt32 → UInt32) (x : Quad) : Quad := ⟨f x.a, f x.b, f x.c, f x.d⟩

/-- The row moved one word to the left, the first word to the end. -/
@[inline]
def turn (x : Quad) : Quad := ⟨x.b, x.c, x.d, x.a⟩

def toList (x : Quad) : List UInt32 := [x.a, x.b, x.c, x.d]

end Quad

/-- Moves the bits of a word to the left, those that leave it back in on the right. -/
@[inline]
def rotateLeft (x count : UInt32) : UInt32 := (x <<< count) ||| (x >>> (32 - count))

/-- Sixteen words in four rows. -/
structure Block where
  row0 : Quad
  row1 : Quad
  row2 : Quad
  row3 : Quad
deriving Repr, DecidableEq

namespace Block

/-- The quarter round on each of the four columns. -/
@[inline]
def mixColumns (s : Block) : Block :=
  let a := s.row0.zip (· + ·) s.row1
  let d := (s.row3.zip (· ^^^ ·) a).map (rotateLeft · 16)
  let c := s.row2.zip (· + ·) d
  let b := (s.row1.zip (· ^^^ ·) c).map (rotateLeft · 12)
  let a := a.zip (· + ·) b
  let d := (d.zip (· ^^^ ·) a).map (rotateLeft · 8)
  let c := c.zip (· + ·) d
  let b := (b.zip (· ^^^ ·) c).map (rotateLeft · 7)
  ⟨a, b, c, d⟩

/-- Turns the rows so that the diagonals stand in the columns. -/
@[inline]
def toDiagonals (s : Block) : Block := ⟨s.row0, s.row1.turn, s.row2.turn.turn, s.row3.turn.turn.turn⟩

/-- Turns the rows back from the diagonals. -/
@[inline]
def ofDiagonals (s : Block) : Block := ⟨s.row0, s.row1.turn.turn.turn, s.row2.turn.turn, s.row3.turn⟩

/-- A round on the columns and a round on the diagonals. -/
def doubleRound (s : Block) : Block := s.mixColumns.toDiagonals.mixColumns.ofDiagonals

def add (s t : Block) : Block :=
  ⟨s.row0.zip (· + ·) t.row0, s.row1.zip (· + ·) t.row1, s.row2.zip (· + ·) t.row2, s.row3.zip (· + ·) t.row3⟩

/-- The words row by row. -/
def toList (s : Block) : List UInt32 := s.row0.toList ++ s.row1.toList ++ s.row2.toList ++ s.row3.toList

/-- The block of the key stream with the given number. -/
def keyed (low high : Quad) (number : UInt64) : Block :=
  let start : Block :=
    ⟨⟨0x61707865, 0x3320646e, 0x79622d32, 0x6b206574⟩, low, high,
      ⟨number.toUInt32, (number >>> 32).toUInt32, 0, 0⟩⟩
  start.doubleRound.doubleRound.doubleRound.doubleRound.doubleRound.doubleRound.add start

end Block

/-- A key stream and the place reached in it: the words of the current block that
    are still to come, and the number of the next block. -/
structure KeyStream where
  low : Quad
  high : Quad
  pending : List UInt32 := []
  next : UInt64 := 0
deriving Repr

namespace KeyStream

/-- The next word of the stream. -/
def word (stream : KeyStream) : UInt32 × KeyStream :=
  match stream.pending with
  | w :: pending => (w, { stream with pending })
  | [] =>
    let block := Block.keyed stream.low stream.high stream.next
    (block.row0.a, { stream with pending := block.toList.tail, next := stream.next + 1 })

/-- The key of eight words that a 64-bit seed stands for: a congruential generator
    steps through states, and each state gives one word of the key. -/
def ofSeed (seed : UInt64) : KeyStream :=
  let step (s : UInt64) : UInt64 := s * 6364136223846793005 + 11634580027462260723
  let out (s : UInt64) : UInt32 :=
    let x := (((s >>> 18) ^^^ s) >>> 27).toUInt32
    let r := (s >>> 59).toUInt32
    (x >>> r) ||| (x <<< (32 - r))
  let s1 := step seed
  let s2 := step s1
  let s3 := step s2
  let s4 := step s3
  let s5 := step s4
  let s6 := step s5
  let s7 := step s6
  let s8 := step s7
  { low := ⟨out s1, out s2, out s3, out s4⟩, high := ⟨out s5, out s6, out s7, out s8⟩ }

end KeyStream
end Stablecoin.Random
