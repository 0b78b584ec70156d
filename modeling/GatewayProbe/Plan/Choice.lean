/-
Choosing one of several candidates.

A choice takes the first candidate or draws one. Draws come from a stream of 32-bit words; a seed
gives the stream of a ChaCha cipher with twelve rounds, so that a run can be repeated. To choose
among `n` candidates a word is multiplied by `n` and the upper half of the product is the position;
words whose lower half falls beyond the last full share are passed over, so that all positions are
equally likely.

* `Draws`, `Draws.seeded` — a stream of words and how many were used;
* `Draws.choose?` — a candidate, and the stream after the choice;
* `Selection.pick?` — the choice a run asks for.
-/
import GatewayProbe.Decimal.Word

namespace GatewayProbe

/-- A stream of words, and how many of them were used. -/
structure Draws where
  word : Nat → UInt32
  used : Nat := 0

namespace Draws

/-- One step of the generator that stretches a seed. -/
def stretch (state : UInt64) : UInt64 := state * 6364136223846793005 + 11634580027462260723

/-- The word of one state of that generator. -/
def keyWord (state : UInt64) : UInt32 :=
  let mixed := (((state >>> 18) ^^^ state) >>> 27).toUInt32
  let turn := (state >>> 59).toUInt32
  (mixed >>> turn) ||| (mixed <<< ((32 - turn) % 32))

/-- The first `n` words of a key. -/
def keyWords : Nat → UInt64 → List UInt32
  | 0, _ => []
  | n + 1, state =>
    let state := stretch state
    keyWord state :: keyWords n state

/-- Turns a word to the left. -/
def rotate (w : UInt32) (n : UInt32) : UInt32 := (w <<< n) ||| (w >>> (32 - n))

/-- The step of the cipher on four words of its state. -/
def quarter (s : Vector UInt32 16) (a b c d : Fin 16) : Vector UInt32 16 :=
  let xa := s[a] + s[b]
  let xd := rotate (s[d] ^^^ xa) 16
  let xc := s[c] + xd
  let xb := rotate (s[b] ^^^ xc) 12
  let ya := xa + xb
  let yd := rotate (xd ^^^ ya) 8
  let yc := xc + yd
  let yb := rotate (xb ^^^ yc) 7
  (((s.set a ya).set b yb).set c yc).set d yd

/-- Two rounds: the columns, then the diagonals. -/
def doubleRound (s : Vector UInt32 16) : Vector UInt32 16 :=
  let s := quarter (quarter (quarter (quarter s 0 4 8 12) 1 5 9 13) 2 6 10 14) 3 7 11 15
  quarter (quarter (quarter (quarter s 0 5 10 15) 1 6 11 12) 2 7 8 13) 3 4 9 14

/-- The state of the cipher before the rounds of a block. -/
def blockState (key : List UInt32) (block : Nat) : Vector UInt32 16 :=
  Vector.ofFn fun i =>
    if i.val < 4 then
      ([0x61707865, 0x3320646e, 0x79622d32, 0x6b206574] : List UInt32).getD i.val 0
    else if i.val < 12 then key.getD (i.val - 4) 0
    else if i.val = 12 then block.toUInt32
    else if i.val = 13 then (block / Decimal.word32).toUInt32
    else 0

/-- The words of one block. -/
def blockWords (key : List UInt32) (block : Nat) : Vector UInt32 16 :=
  let start := blockState key block
  let turned := Nat.repeat doubleRound 6 start
  Vector.ofFn fun i => turned[i] + start[i]

/-- The stream of a seed. -/
def seeded (seed : UInt64) : Draws where
  word n := (blockWords (keyWords 8 seed) (n / 16)).get ⟨n % 16, Nat.mod_lt _ (by decide)⟩

/-- The lower halves that are not passed over when choosing among `n` are at most this. -/
def zone (n : Nat) : Nat := (n * Nat.pow 2 (31 - Nat.log2 n) - 1) % Decimal.word32

/-- The position drawn among `n`, and how many words were used by then. More than half of all words
serve, so the bound on the words passed over is never met in practice. -/
def position (word : Nat → UInt32) (n : Nat) : Nat → Nat → Nat × Nat
  | 0, used => (0, used)
  | fuel + 1, used =>
    let product := (word used).toNat * n
    if product % Decimal.word32 ≤ zone n then (product / Decimal.word32, used + 1)
    else position word n fuel (used + 1)

/-- Draws one of the candidates. Nothing is drawn where there are none. -/
def choose? {α : Type} (draws : Draws) (candidates : List α) : Option α × Draws :=
  if candidates.isEmpty then (none, draws)
  else
    let (i, used) := position draws.word candidates.length 4096 draws.used
    (candidates[i]?, { draws with used })

end Draws

/-- How one of several candidates is chosen. -/
inductive Selection where
  | first
  | random (draws : Draws)

/-- Chooses one of the candidates. Gives it, and how the next choice is made. -/
def Selection.pick? {α : Type} (candidates : List α) : Selection → Option α × Selection
  | .first => (candidates.head?, .first)
  | .random draws =>
    let (chosen, draws) := draws.choose? candidates
    (chosen, .random draws)

end GatewayProbe
