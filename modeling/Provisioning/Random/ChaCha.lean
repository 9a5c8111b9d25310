/-
**Random numbers from a seed.**

The ChaCha stream generator with twelve rounds, as a source of 64-bit draws: a key of eight words is
made from a seed by a linear congruential generator with a permuted output, each block of sixteen
words is the mixed state of the key and a counter, and a draw is two words, the low one first.

Main definitions:

* `ChaCha.Key.ofSeed` — the key of a seed;
* `ChaCha.block` — the block of a counter;
* `ChaCha.draws` — **the draws** of a key.
-/

set_option autoImplicit false
set_option relaxedAutoImplicit false

namespace Provisioning.ChaCha

/-- A key of eight words. -/
abbrev Key := Vector UInt32 8

/-- A state of sixteen words. -/
abbrev Block := Vector UInt32 16

/-! ### Keys -/

/-- The word that a generator state gives. -/
def seedWord (state : UInt64) : UInt32 :=
  let x := (((state >>> 18) ^^^ state) >>> 27).toUInt32
  let turn := (state >>> 59).toUInt32
  (x >>> turn) ||| (x <<< ((32 - turn) &&& 31))

/-- The generator's step. -/
def seedStep (state : UInt64) : UInt64 := state * 6364136223846793005 + 11634580027462260723

/-- The first words that a generator gives. -/
def seedWords : Nat → UInt64 → List UInt32
  | 0, _ => []
  | n + 1, state => seedWord (seedStep state) :: seedWords n (seedStep state)

/-- The key of a seed. -/
def Key.ofSeed (seed : UInt64) : Key :=
  let words := seedWords 8 seed
  Vector.ofFn fun i => words.getD i.val 0

/-! ### Blocks -/

/-- Turn a word to the left. -/
def rotate (x amount : UInt32) : UInt32 := (x <<< amount) ||| (x >>> (32 - amount))

/-- The quarter round on four places of a state. -/
def quarterRound (s : Block) (i j k l : Fin 16) : Block :=
  let a := s[i] + s[j]
  let d := rotate (s[l] ^^^ a) 16
  let c := s[k] + d
  let b := rotate (s[j] ^^^ c) 12
  let a := a + b
  let d := rotate (d ^^^ a) 8
  let c := c + d
  let b := rotate (b ^^^ c) 7
  (((s.set i a).set j b).set k c).set l d

/-- A round on the columns and one on the diagonals. -/
def doubleRound (s : Block) : Block :=
  let s := quarterRound s 0 4 8 12
  let s := quarterRound s 1 5 9 13
  let s := quarterRound s 2 6 10 14
  let s := quarterRound s 3 7 11 15
  let s := quarterRound s 0 5 10 15
  let s := quarterRound s 1 6 11 12
  let s := quarterRound s 2 7 8 13
  quarterRound s 3 4 9 14

/-- Several double rounds. -/
def mix : Nat → Block → Block
  | 0, s => s
  | n + 1, s => mix n (doubleRound s)

/-- The state before mixing: four constants, the key, the counter and no nonce. -/
def start (key : Key) (counter : UInt64) : Block :=
  #v[0x61707865, 0x3320646e, 0x79622d32, 0x6b206574,
    key[0], key[1], key[2], key[3], key[4], key[5], key[6], key[7],
    counter.toUInt32, (counter >>> 32).toUInt32, 0, 0]

/-- The block of a counter: the mixed state added to the state before. -/
def block (key : Key) (counter : UInt64) : Block :=
  let s := start key counter
  Vector.zipWith (· + ·) (mix 6 s) s

/-! ### Draws -/

/-- Two words as one draw, the low one first. -/
def pairs : List UInt32 → List UInt64
  | low :: high :: rest => (low.toUInt64 ||| (high.toUInt64 <<< 32)) :: pairs rest
  | _ => []

/-- **The draws** of the first blocks of a key, eight from each block. -/
def draws (key : Key) (blocks : Nat) : List UInt64 :=
  (List.range blocks).flatMap fun n => pairs (block key (.ofNat n)).toList

end Provisioning.ChaCha
