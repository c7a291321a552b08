namespace EntityDiagram.Random

structure Row where
  w0 : UInt32
  w1 : UInt32
  w2 : UInt32
  w3 : UInt32

namespace Row

def add (r s : Row) : Row := ⟨r.w0 + s.w0, r.w1 + s.w1, r.w2 + s.w2, r.w3 + s.w3⟩

def rotateWord (x : UInt32) (n : UInt32) : UInt32 := (x <<< n) ||| (x >>> (32 - n))

/-- Combines two rows and turns every word by `n` bits. -/
def mix (r s : Row) (n : UInt32) : Row :=
  ⟨rotateWord (r.w0 ^^^ s.w0) n, rotateWord (r.w1 ^^^ s.w1) n,
    rotateWord (r.w2 ^^^ s.w2) n, rotateWord (r.w3 ^^^ s.w3) n⟩

def shift (r : Row) : Row := ⟨r.w1, r.w2, r.w3, r.w0⟩

def toList (r : Row) : List UInt32 := [r.w0, r.w1, r.w2, r.w3]

end Row

/-- The state of the ChaCha cipher: sixteen words in four rows. -/
structure Grid where
  a : Row
  b : Row
  c : Row
  d : Row

namespace Grid

def columns (g : Grid) : Grid :=
  let a := g.a.add g.b
  let d := g.d.mix a 16
  let c := g.c.add d
  let b := g.b.mix c 12
  let a := a.add b
  let d := d.mix a 8
  let c := c.add d
  let b := b.mix c 7
  ⟨a, b, c, d⟩

/-- Turns diagonals into columns; `undiagonal` turns them back. -/
def diagonal (g : Grid) : Grid := ⟨g.a, g.b.shift, g.c.shift.shift, g.d.shift.shift.shift⟩

def undiagonal (g : Grid) : Grid := ⟨g.a, g.b.shift.shift.shift, g.c.shift.shift, g.d.shift⟩

/-- A round on the columns and one on the diagonals. -/
def doubleRound (g : Grid) : Grid := g.columns.diagonal.columns.undiagonal

def add (g h : Grid) : Grid := ⟨g.a.add h.a, g.b.add h.b, g.c.add h.c, g.d.add h.d⟩

def words (g : Grid) : List UInt32 := g.a.toList ++ g.b.toList ++ g.c.toList ++ g.d.toList

end Grid

/-- The two rows of the state that a seed decides. -/
structure Key where
  low : Row
  high : Row

/-- One step of the generator that spreads a seed over the words of a key. -/
def spread (state : UInt64) : UInt64 := state * 6364136223846793005 + 11634580027462260723

def spreadWord (state : UInt64) : UInt32 :=
  let x := (((state >>> 18) ^^^ state) >>> 27).toUInt32
  let n := (state >>> 59).toUInt32
  (x >>> n) ||| (x <<< ((32 - n) % 32))

namespace Key

def ofSeed (seed : UInt64) : Key :=
  let s1 := spread seed
  let s2 := spread s1
  let s3 := spread s2
  let s4 := spread s3
  let s5 := spread s4
  let s6 := spread s5
  let s7 := spread s6
  let s8 := spread s7
  ⟨⟨spreadWord s1, spreadWord s2, spreadWord s3, spreadWord s4⟩,
    ⟨spreadWord s5, spreadWord s6, spreadWord s7, spreadWord s8⟩⟩

/-- A block of the key stream, by its number, after twelve rounds. -/
def block (k : Key) (number : Nat) : List UInt32 :=
  let counter := number.toUInt64
  let start : Grid :=
    ⟨⟨0x61707865, 0x3320646e, 0x79622d32, 0x6b206574⟩, k.low, k.high,
      ⟨counter.toUInt32, (counter >>> 32).toUInt32, 0, 0⟩⟩
  (Nat.repeat Grid.doubleRound 6 start).add start |>.words

/-- The number at a place of the stream, at least zero and less than one. -/
def float (k : Key) (place : Nat) : Float :=
  match (k.block (place / 8)).drop (2 * (place % 8)) with
  | low :: high :: _ =>
    let bits := high.toUInt64 <<< 32 ||| low.toUInt64
    (bits >>> 11).toFloat.scaleB (-53)
  | _ => 0

end Key

end EntityDiagram.Random
