import ClusterAudit.Text.Decimal
import ClusterAudit.Text.Hex

/-!
Addresses to listen on: an IPv4 or IPv6 address with a port. IPv6 addresses are written in the form
of RFC 5952, with numeric zones.
-/

namespace ClusterAudit

/-- An address and a port. -/
inductive SocketAddress where
  | v4 (octets : List Nat) (port : Nat)
  | v6 (groups : List Nat) (zone : Nat) (port : Nat)
deriving DecidableEq, Repr

namespace SocketAddress

open Text

/-! ## Reading -/

/-- A given character, and what follows it. -/
def readMark? (mark : Char) : List Char → Option (List Char)
  | character :: rest => if character = mark then some rest else none
  | [] => none

/-- A number of one to three digits below 256, without a leading zero. -/
def readOctet? (text : List Char) : Option (Nat × List Char) :=
  let written := text.takeWhile isDigit
  let rest := text.dropWhile isDigit
  if 3 < written.length || (written.head? == some '0' && 1 < written.length) then none
  else (natOfDigits? written).bind fun value => if value < 256 then some (value, rest) else none

/-- Four octets between points. -/
def readOctets? (text : List Char) : Option (List Nat × List Char) := do
  let (first, rest) ← readOctet? text
  let (second, rest) ← readOctet? (← readMark? '.' rest)
  let (third, rest) ← readOctet? (← readMark? '.' rest)
  let (fourth, rest) ← readOctet? (← readMark? '.' rest)
  return ([first, second, third, fourth], rest)

/-- A number of any length below a bound. -/
def readBelow? (bound : Nat) (text : List Char) : Option (Nat × List Char) :=
  (natOfDigits? (text.takeWhile isDigit)).bind fun value =>
    if value < bound then some (value, text.dropWhile isDigit) else none

/-- A colon and a port. -/
def readPort? (text : List Char) : Option (Nat × List Char) :=
  (readMark? ':' text).bind (readBelow? 65536)

/-- One to four hexadecimal digits. -/
def readGroup? (text : List Char) : Option (Nat × List Char) :=
  let written := text.takeWhile fun character => (hexValue? character).isSome
  if written.isEmpty || 4 < written.length then none
  else
    some (written.foldl (fun value digit => value * 16 + (hexValue? digit).getD 0) 0,
      text.drop written.length)

/-- Groups between colons, at most `room` of them; the last two may be written as four octets. The
flag tells whether they were. -/
def readGroups (room : Nat) (isFirst : Bool) (text : List Char) :
    List Nat × Bool × List Char :=
  match room with
  | 0 => ([], false, text)
  | room + 1 =>
      let start := if isFirst then some text else readMark? ':' text
      match start with
      | none => ([], false, text)
      | some start =>
          let embedded := if 0 < room then readOctets? start else none
          match embedded with
          | some ([first, second, third, fourth], rest) =>
              ([first * 256 + second, third * 256 + fourth], true, rest)
          | _ =>
              match readGroup? start with
              | none => ([], false, text)
              | some (group, rest) =>
                  let (groups, isEmbedded, rest) := readGroups room false rest
                  (group :: groups, isEmbedded, rest)

/-- Eight groups, of which a double colon may stand for one or more that are zero. -/
def readAllGroups? (text : List Char) : Option (List Nat × List Char) :=
  let (front, isEmbedded, rest) := readGroups 8 true text
  if front.length = 8 then some (front, rest)
  else if isEmbedded then none
  else
    match rest with
    | ':' :: ':' :: rest =>
        let (back, _, rest) := readGroups (7 - front.length) true rest
        some (front ++ List.replicate (8 - front.length - back.length) 0 ++ back, rest)
    | _ => none

/-- An IPv4 address with a port. -/
def readV4? (text : List Char) : Option SocketAddress := do
  let (octets, rest) ← readOctets? text
  let (port, rest) ← readPort? rest
  if rest.isEmpty then some (v4 octets port) else none

/-- A zone after a percent sign; without one, zone zero. -/
def readZone (text : List Char) : Nat × List Char :=
  match (readMark? '%' text).bind (readBelow? 4294967296) with
  | some found => found
  | none => (0, text)

/-- An IPv6 address in brackets with a port. -/
def readV6? (text : List Char) : Option SocketAddress := do
  let (groups, rest) ← readAllGroups? (← readMark? '[' text)
  let (zone, rest) := readZone rest
  let (port, rest) ← readPort? (← readMark? ']' rest)
  if rest.isEmpty then some (v6 groups zone port) else none

/-- Reads a socket address. -/
def parse? (text : String) : Option SocketAddress :=
  (readV4? text.toList).or (readV6? text.toList)

/-! ## Writing -/

def octetsText (octets : List Nat) : String :=
  ".".intercalate (octets.map ofNat)

/-- The number of zeros at the start of a list. -/
def zerosAt (groups : List Nat) : Nat :=
  (groups.takeWhile (· == 0)).length

/-- The start and length of the first longest run of zero groups. -/
def longestZeros (groups : List Nat) : Nat × Nat :=
  (List.range groups.length).foldl
    (fun best start =>
      let length := zerosAt (groups.drop start)
      if best.2 < length then (start, length) else best)
    (0, 0)

def groupsText (groups : List Nat) : String :=
  ":".intercalate (groups.map fun group => String.ofList (shortHex 4 group))

/-- An IPv6 address. The first longest run of two or more zero groups is left out, and an address
that maps an IPv4 address ends in its octets. -/
def addressText (groups : List Nat) : String :=
  match groups with
  | [0, 0, 0, 0, 0, 0xffff, high, low] =>
      "::ffff:" ++ octetsText [high / 256, high % 256, low / 256, low % 256]
  | groups =>
      let (start, length) := longestZeros groups
      if 1 < length then
        groupsText (groups.take start) ++ "::" ++ groupsText (groups.drop (start + length))
      else groupsText groups

/-- The text of a socket address. -/
def toText : SocketAddress → String
  | v4 octets port => octetsText octets ++ ":" ++ ofNat port
  | v6 groups zone port =>
      "[" ++ addressText groups ++ (if zone = 0 then "" else "%" ++ ofNat zone) ++ "]:" ++
        ofNat port

end SocketAddress

end ClusterAudit
