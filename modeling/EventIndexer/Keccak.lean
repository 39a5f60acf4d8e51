/-! Keccak-256, padded with a one bit at either end: event signatures and address checksums are
digests of ASCII text.  The state is a list of 25 lanes, lane `x + 5 * y` at column `x` and row
`y`. -/

namespace EventIndexer.Keccak

/-- One constant a round, added to the first lane. -/
def roundConstants : List UInt64 :=
  [0x0000000000000001, 0x0000000000008082, 0x800000000000808a, 0x8000000080008000,
   0x000000000000808b, 0x0000000080000001, 0x8000000080008081, 0x8000000000008009,
   0x000000000000008a, 0x0000000000000088, 0x0000000080008009, 0x000000008000000a,
   0x000000008000808b, 0x800000000000008b, 0x8000000000008089, 0x8000000000008003,
   0x8000000000008002, 0x8000000000000080, 0x000000000000800a, 0x800000008000000a,
   0x8000000080008081, 0x8000000000008080, 0x0000000080000001, 0x8000000080008008]

def offsets : List UInt64 :=
  [0, 1, 62, 28, 27, 36, 44, 6, 55, 20, 3, 10, 43, 25, 39, 41, 45, 15, 21, 8, 18, 2, 61, 56, 14]

def rotate (lane offset : UInt64) : UInt64 :=
  if offset = 0 then lane else (lane <<< offset) ||| (lane >>> (64 - offset))

/-- One round: column parities, rotation, transposition, the row map, and the round's constant. -/
def round (state : List UInt64) (constant : UInt64) : List UInt64 :=
  let lane (lanes : List UInt64) (i : Nat) : UInt64 := lanes.getD i 0
  let parity := (List.range 5).map fun x =>
    lane state x ^^^ lane state (x + 5) ^^^ lane state (x + 10) ^^^ lane state (x + 15) ^^^
      lane state (x + 20)
  let mask := (List.range 5).map fun x =>
    lane parity ((x + 4) % 5) ^^^ rotate (lane parity ((x + 1) % 5)) 1
  let turned := (List.range 25).map fun i =>
    rotate (lane state i ^^^ lane mask (i % 5)) (lane offsets i)
  let moved := (List.range 25).map fun i => lane turned ((i % 5 + 3 * (i / 5)) % 5 + 5 * (i % 5))
  let mixed := (List.range 25).map fun i =>
    let row := 5 * (i / 5)
    lane moved i ^^^ (~~~(lane moved (row + (i + 1) % 5)) &&& lane moved (row + (i + 2) % 5))
  match mixed with
  | [] => []
  | first :: rest => (first ^^^ constant) :: rest

def permute (state : List UInt64) : List UInt64 := roundConstants.foldl round state

def rate : Nat := 136

/-- The little-endian lanes of a block. -/
def lanes : (count : Nat) → List UInt8 → List UInt64
  | 0, _ => []
  | count + 1, bytes =>
    (bytes.take 8).foldr (fun byte lane => (lane <<< 8) ||| byte.toUInt64) 0 ::
      lanes count (bytes.drop 8)

/-- The message up to a whole number of blocks: a one bit, zeros, and a last one bit. -/
def pad (message : List UInt8) : List UInt8 :=
  let missing := rate - message.length % rate
  if missing = 1 then message ++ [0x81]
  else message ++ 0x01 :: List.replicate (missing - 2) 0 ++ [0x80]

/-- The state after absorbing whole blocks. -/
def absorb : (blocks : Nat) → List UInt8 → List UInt64 → List UInt64
  | 0, _, state => state
  | blocks + 1, bytes, state =>
    absorb blocks (bytes.drop rate)
      (permute (List.zipWith (· ^^^ ·) state (lanes 17 (bytes.take rate) ++ List.replicate 8 0)))

/-- The eight bytes of a lane, least significant first. -/
def laneBytes (lane : UInt64) : List UInt8 :=
  (List.range 8).map fun i => (lane >>> (8 * UInt64.ofNat i)).toUInt8

def hash (message : List UInt8) : List UInt8 :=
  let padded := pad message
  ((absorb (padded.length / rate) padded (List.replicate 25 0)).take 4).flatMap laneBytes

/-- The digest of a text's UTF-8 bytes. -/
def hashText (text : String) : List UInt8 := hash (text.toList.flatMap String.utf8EncodeChar)

end EventIndexer.Keccak
