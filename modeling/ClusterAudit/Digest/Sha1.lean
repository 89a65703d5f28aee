/-!
The SHA-1 digest of a sequence of bytes.
-/

namespace ClusterAudit.Digest

/-- The five words of the digest's state. -/
structure Sha1State where
  a : UInt32
  b : UInt32
  c : UInt32
  d : UInt32
  e : UInt32
deriving DecidableEq

namespace Sha1State

def start : Sha1State where
  a := 0x67452301
  b := 0xEFCDAB89
  c := 0x98BADCFE
  d := 0x10325476
  e := 0xC3D2E1F0

def rotateLeft (word : UInt32) (places : UInt32) : UInt32 :=
  (word <<< places) ||| (word >>> (32 - places))

/-- The mixing function and constant of a round. -/
def roundValue (state : Sha1State) (round : Nat) : UInt32 :=
  let ⟨_, b, c, d, _⟩ := state
  if round < 20 then ((b &&& c) ||| ((~~~b) &&& d)) + 0x5A827999
  else if round < 40 then (b ^^^ c ^^^ d) + 0x6ED9EBA1
  else if round < 60 then ((b &&& c) ||| (b &&& d) ||| (c &&& d)) + 0x8F1BBCDC
  else (b ^^^ c ^^^ d) + 0xCA62C1D6

/-- One round with its word of the schedule. -/
def step (state : Sha1State) (round : Nat) (word : UInt32) : Sha1State where
  a := rotateLeft state.a 5 + roundValue state round + state.e + word
  b := state.a
  c := rotateLeft state.b 30
  d := state.c
  e := state.d

def add (left right : Sha1State) : Sha1State where
  a := left.a + right.a
  b := left.b + right.b
  c := left.c + right.c
  d := left.d + right.d
  e := left.e + right.e

def words (state : Sha1State) : List UInt32 :=
  [state.a, state.b, state.c, state.d, state.e]

end Sha1State

/-- The bytes of a number of the given width, the highest first. -/
def bigEndian (width value : Nat) : List UInt8 :=
  (List.range width).map fun index => UInt8.ofNat (value / Nat.pow 256 (width - 1 - index))

/-- The words that four bytes each make, the highest first. -/
def wordsOfBytes : List UInt8 → List UInt32
  | first :: second :: third :: fourth :: rest =>
      ((first.toUInt32 <<< 24) ||| (second.toUInt32 <<< 16) ||| (third.toUInt32 <<< 8) |||
        fourth.toUInt32) :: wordsOfBytes rest
  | _ => []

/-- The message filled up to whole blocks of 64 bytes: a one bit, zeros, and the length in bits. -/
def padded (message : List UInt8) : List UInt8 :=
  let zeros := (119 - message.length % 64) % 64
  message ++ 0x80 :: List.replicate zeros 0 ++ bigEndian 8 (message.length * 8)

/-- The last sixteen words of the schedule, the newest first, moved on by one word. -/
def nextWord (recent : List UInt32) : UInt32 :=
  Sha1State.rotateLeft
    (recent.getD 2 0 ^^^ recent.getD 7 0 ^^^ recent.getD 13 0 ^^^ recent.getD 15 0) 1

/-- Runs the rounds from `round` on, given the last sixteen words of the schedule. -/
def runRounds : (left round : Nat) → List UInt32 → Sha1State → Sha1State
  | 0, _, _, state => state
  | left + 1, round, recent, state =>
      let word := nextWord recent
      runRounds left (round + 1) (word :: recent.take 15) (state.step round word)

/-- Mixes a block of sixteen words into the state. -/
def mixBlock (state : Sha1State) (block : List UInt32) : Sha1State :=
  let afterBlock := block.zipIdx.foldl
    (fun state entry => state.step entry.2 entry.1) state
  state.add (runRounds 64 16 block.reverse afterBlock)

/-- Mixes whole blocks into the state; the first argument is their number. -/
def mixBlocks : Nat → Sha1State → List UInt32 → Sha1State
  | 0, state, _ => state
  | blocks + 1, state, words =>
      mixBlocks blocks (mixBlock state (words.take 16)) (words.drop 16)

/-- The twenty bytes of the digest. -/
def sha1 (message : List UInt8) : List UInt8 :=
  let words := wordsOfBytes (padded message)
  (mixBlocks (words.length / 16) Sha1State.start words).words.flatMap fun word =>
    bigEndian 4 word.toNat

end ClusterAudit.Digest
