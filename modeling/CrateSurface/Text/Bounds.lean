namespace CrateSurface.Text

/-- Membership in a union of half-open runs of code points, given by their bounds
`[lo₁, hi₁, lo₂, hi₂, …]` in increasing order. -/
def withinBounds : List Nat → Nat → Bool
  | lo :: hi :: rest, n => if n < lo then false else n < hi || withinBounds rest n
  | _, _ => false

end CrateSurface.Text
