/-!
# Binary data in YAML

Bytes in base 64. Characters that are no digits are skipped, and padding ends the data where a group may end.
-/

namespace StateMachine.Yaml

/-- The value of a digit of base 64. -/
def base64Digit? (c : Char) : Option Nat :=
  let n := c.toNat
  if c.isUpper then some (n - 65)
  else if c.isLower then some (n - 71)
  else if c.isDigit then some (n + 4)
  else if c == '+' then some 62
  else if c == '/' then some 63
  else none

/-- Decodes characters: `count` digits of the current group were read, `pads` signs of padding follow them, and
`left` holds the bits that belong to no byte yet. -/
def decodeBase64? (count pads left : Nat) : List Char → Option (List UInt8)
  | [] => if count = 0 then some [] else none
  | c :: rest =>
    if c == '=' then
      if 2 ≤ count && 4 ≤ count + pads + 1 then some []
      else decodeBase64? count (if 2 ≤ count then pads + 1 else pads) left rest
    else
      match base64Digit? c with
      | none => decodeBase64? count pads left rest
      | some d =>
        match count with
        | 0 => decodeBase64? 1 0 d rest
        | 1 => (decodeBase64? 2 0 (d % 16) rest).map ((left * 4 + d / 16).toUInt8 :: ·)
        | 2 => (decodeBase64? 3 0 (d % 4) rest).map ((left * 16 + d / 4).toUInt8 :: ·)
        | _ => (decodeBase64? 0 0 0 rest).map ((left * 64 + d).toUInt8 :: ·)

/-- The bytes of a scalar, which must be ASCII. -/
def readBinary? (cs : List Char) : Option (List UInt8) :=
  if cs.all fun c => c.toNat < 128 then decodeBase64? 0 0 0 cs else none

end StateMachine.Yaml
