/-!
Base64 with the standard alphabet and padding.
-/

namespace ClusterAudit.Text

/-- The value of a character of the alphabet. -/
def base64Value? (character : Char) : Option Nat :=
  if 'A' ≤ character ∧ character ≤ 'Z' then some (character.toNat - 'A'.toNat)
  else if 'a' ≤ character ∧ character ≤ 'z' then some (character.toNat - 'a'.toNat + 26)
  else if '0' ≤ character ∧ character ≤ '9' then some (character.toNat - '0'.toNat + 52)
  else if character = '+' then some 62
  else if character = '/' then some 63
  else none

/-- A character of the alphabet whose lowest bits, which stand for nothing, are zero. -/
def endsGroup (unusedBits : Nat) (character : Char) : Bool :=
  (base64Value? character).any fun value => value % Nat.pow 2 unusedBits == 0

/-- Whether a text is the encoding of some bytes: groups of four characters, of which the last may
be padded, with no bit set that stands for nothing. Each sequence of bytes has one such text. -/
def isBase64 : List Char → Bool
  | [] => true
  | [a, b, '=', '='] => (base64Value? a).isSome && endsGroup 4 b
  | [a, b, c, '='] => (base64Value? a).isSome && (base64Value? b).isSome && endsGroup 2 c
  | a :: b :: c :: d :: rest =>
      (base64Value? a).isSome && (base64Value? b).isSome && (base64Value? c).isSome &&
        (base64Value? d).isSome && isBase64 rest
  | _ => false

end ClusterAudit.Text
