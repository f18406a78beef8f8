namespace CrateSurface.Text

/-- The upper-case form of a character. Letters outside ASCII are kept, except the few whose
upper-case form is written in ASCII letters: those are the only ones that can complete a name
written in ASCII. -/
def upperChar (c : Char) : List Char :=
  match c with
  | 'ß' => ['S', 'S']
  | 'ı' => ['I']
  | 'ſ' => ['S']
  | 'ﬀ' => ['F', 'F']
  | 'ﬁ' => ['F', 'I']
  | 'ﬂ' => ['F', 'L']
  | 'ﬃ' => ['F', 'F', 'I']
  | 'ﬄ' => ['F', 'F', 'L']
  | 'ﬅ' => ['S', 'T']
  | 'ﬆ' => ['S', 'T']
  | c => [c.toUpper]

/-- Upper case, exact on every text whose upper-case form is ASCII. -/
def upper (s : String) : String :=
  String.ofList (s.toList.flatMap upperChar)

/-- Lower case for ASCII letters. The only other letters with an ASCII lower-case form are the
Kelvin sign and the dotted capital I, whose forms hold `k` and `i`. -/
def lower (s : String) : String :=
  String.ofList (s.toList.map Char.toLower)

end CrateSurface.Text
