namespace CrateSurface.Yaml.Base64

/-- The six bits that a character stands for. -/
def sextet? (c : Char) : Option Nat :=
  if 'A' ≤ c ∧ c ≤ 'Z' then some (c.toNat - 'A'.toNat)
  else if 'a' ≤ c ∧ c ≤ 'z' then some (c.toNat - 'a'.toNat + 26)
  else if '0' ≤ c ∧ c ≤ '9' then some (c.toNat - '0'.toNat + 52)
  else if c == '+' then some 62
  else if c == '/' then some 63
  else none

/-- Reads on with `held` sextets of a group read, whose open bits are `bits`, and `pads` signs of
padding seen. Other characters are skipped; padding ends the text once it fills the group. -/
def decodeFrom (held bits pads : Nat) : List Char → Option (List UInt8)
  | [] => if held == 0 then some [] else none
  | c :: rest =>
    if c == '=' then
      if held ≥ 2 then
        if held + pads + 1 ≥ 4 then some [] else decodeFrom held bits (pads + 1) rest
      else decodeFrom held bits pads rest
    else
      match sextet? c with
      | none => decodeFrom held bits pads rest
      | some n =>
        if held == 0 then decodeFrom 1 n 0 rest
        else
          let all := bits * 64 + n
          let unit := 4 ^ (3 - held)
          (decodeFrom ((held + 1) % 4) (all % unit) 0 rest).map (UInt8.ofNat (all / unit) :: ·)

/-- The bytes that a text in base 64 stands for. -/
def decode? (cs : List Char) : Option (List UInt8) :=
  if cs.all fun c => c.toNat < 128 then decodeFrom 0 0 0 cs else none

end CrateSurface.Yaml.Base64
