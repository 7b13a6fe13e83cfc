/-!
# Keccak-256

The sponge over 25 lanes of 64 bits with a rate of 136 bytes and the padding byte `0x01`. Lane
`x + 5y` of a state is the lane in column `x` and row `y`.
-/

namespace ValidatorReader.Keccak

abbrev Lane := UInt64

abbrev State := Vector Lane 25

/-- The lane in column `x` and row `y`, both taken modulo five. -/
def lane (s : State) (x y : Nat) : Lane :=
  s.get ⟨x % 5 + 5 * (y % 5), by omega⟩

/-- A state given lane by lane. -/
def build (f : Nat → Nat → Lane) : State :=
  Vector.ofFn fun i => f (i.val % 5) (i.val / 5)

/-- Rotation towards the high bits. -/
def rotate (w : Lane) (n : Nat) : Lane :=
  (w <<< UInt64.ofNat (n % 64)) ||| (w >>> UInt64.ofNat ((64 - n % 64) % 64))

def rotations : List Nat :=
  [0, 1, 62, 28, 27, 36, 44, 6, 55, 20, 3, 10, 43, 25, 39, 41, 45, 15, 21, 8, 18, 2, 61, 56, 14]

def roundConstants : List Lane :=
  [0x0000000000000001, 0x0000000000008082, 0x800000000000808a, 0x8000000080008000,
    0x000000000000808b, 0x0000000080000001, 0x8000000080008081, 0x8000000000008009,
    0x000000000000008a, 0x0000000000000088, 0x0000000080008009, 0x000000008000000a,
    0x000000008000808b, 0x800000000000008b, 0x8000000000008089, 0x8000000000008003,
    0x8000000000008002, 0x8000000000000080, 0x000000000000800a, 0x800000008000000a,
    0x8000000080008081, 0x8000000000008080, 0x0000000080000001, 0x8000000080008008]

/-- Each lane takes in the parities of two neighbouring columns. -/
def theta (s : State) : State :=
  let parity := Vector.ofFn fun x : Fin 5 =>
    lane s x 0 ^^^ lane s x 1 ^^^ lane s x 2 ^^^ lane s x 3 ^^^ lane s x 4
  let column (x : Nat) : Lane := parity.get ⟨x % 5, by omega⟩
  build fun x y => lane s x y ^^^ column (x + 4) ^^^ rotate (column (x + 1)) 1

/-- Each lane is rotated and moved to its new place. -/
def rhoPi (s : State) : State :=
  build fun x y =>
    let source := (x + 3 * y) % 5
    rotate (lane s source x) (rotations.getD (source + 5 * (x % 5)) 0)

/-- Each lane takes in the two lanes to its right. -/
def chi (s : State) : State :=
  build fun x y => lane s x y ^^^ (~~~ lane s (x + 1) y &&& lane s (x + 2) y)

def round (s : State) (constant : Lane) : State :=
  let mixed := chi (rhoPi (theta s))
  mixed.set 0 (mixed[0] ^^^ constant)

def permute (s : State) : State :=
  roundConstants.foldl round s

/-! ## The sponge -/

def rate : Nat := 136

/-- The lane whose bytes, least significant first, are given. -/
def laneOfBytes (bytes : List UInt8) : Lane :=
  bytes.foldr (fun b w => (w <<< 8) ||| b.toUInt64) 0

def laneBytes (w : Lane) : List UInt8 :=
  (List.range 8).map fun i => (w >>> UInt64.ofNat (8 * i)).toUInt8

/-- Adds one block of the message to the state and permutes it. -/
def absorb (s : State) (block : List UInt8) : State :=
  permute <| Vector.ofFn fun i => s[i] ^^^ laneOfBytes ((block.drop (8 * i.val)).take 8)

def padding (length : Nat) : List UInt8 :=
  match rate - 1 - length % rate with
  | 0 => [0x81]
  | n + 1 => 0x01 :: List.replicate n 0 ++ [0x80]

/-- Absorbs a number of blocks from the front of the message. -/
def absorbBlocks : Nat → State → List UInt8 → State
  | 0, s, _ => s
  | n + 1, s, message => absorbBlocks n (absorb s (message.take rate)) (message.drop rate)

def digest (message : List UInt8) : List UInt8 :=
  let padded := message ++ padding message.length
  let final := absorbBlocks (padded.length / rate) (Vector.replicate 25 0) padded
  laneBytes final[0] ++ laneBytes final[1] ++ laneBytes final[2] ++ laneBytes final[3]

theorem length_digest (message : List UInt8) : (digest message).length = 32 := by
  simp [digest, laneBytes]

end ValidatorReader.Keccak
