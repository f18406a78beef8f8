import CrateSurface.Proofs.GrammarRules

namespace CrateSurface.Grammar

variable {σ : Type}

mutual

/-- Whether a rule takes at least one character whenever it matches, if every symbol does. -/
@[simp]
def Rule.eats : Rule σ → Bool
  | .token _ | .skip _ | .ref _ => true
  | .empty | .many _ | .ahead _ | .butNot _ => false
  | .seq first second => first.eats || second.eats
  | .alt first second => first.eats && second.eats
  | .node _ body | .role _ body => body.eats
  | .grow head _ => head.eats
  | .fork head tails => head.eats || tailsEat tails

/-- Whether each of the tails takes at least one character. -/
@[simp]
def tailsEat : List (String × Option String × Rule σ) → Bool
  | [] => true
  | (_, _, rule) :: tails => rule.eats && tailsEat tails

end

mutual

/-- How many steps into a rule a derivation can take before a character is taken, where the symbols
take as many as their rank. -/
@[simp]
def Rule.depth (rank : σ → Nat) : Rule σ → Nat
  | .token _ | .skip _ | .empty => 1
  | .ref symbol => rank symbol + 1
  | .seq first second =>
    max (first.depth rank) (if first.eats then 0 else second.depth rank) + 1
  | .alt first second => max (first.depth rank) (second.depth rank) + 1
  | .many body | .node _ body | .role _ body | .ahead body | .butNot body => body.depth rank + 1
  | .grow head tails =>
    max (head.depth rank) (if head.eats then 0 else tailsDepth rank tails + 1) + 1
  | .fork head tails => max (head.depth rank) (if head.eats then 0 else tailsDepth rank tails) + 1

/-- The same for tails that are tried one after the other. -/
@[simp]
def tailsDepth (rank : σ → Nat) : List (String × Option String × Rule σ) → Nat
  | [] => 1
  | (_, _, rule) :: tails => max (rule.depth rank) (tailsDepth rank tails) + 1

end

mutual

/-- Whether every part of a rule that may start behind a taken character gets by with the `limit` of
steps that a character pays for, and whatever is repeated takes one. -/
@[simp]
def Rule.fits (rank : σ → Nat) (limit : Nat) : Rule σ → Bool
  | .token _ | .skip _ | .empty | .ref _ => true
  | .seq first second =>
    first.fits rank limit && second.fits rank limit && second.depth rank ≤ limit
  | .alt first second => first.fits rank limit && second.fits rank limit
  | .many body => body.eats && body.fits rank limit && body.depth rank < limit
  | .node _ body | .role _ body | .ahead body | .butNot body => body.fits rank limit
  | .grow head tails => head.fits rank limit && tailsEat tails && tailsFit rank limit tails &&
      tailsDepth rank tails < limit
  | .fork head tails => head.fits rank limit && tailsFit rank limit tails &&
      tailsDepth rank tails ≤ limit

/-- Whether the rules of tails fit. -/
@[simp]
def tailsFit (rank : σ → Nat) (limit : Nat) : List (String × Option String × Rule σ) → Bool
  | [] => true
  | (_, _, rule) :: tails => rule.fits rank limit && tailsFit rank limit tails

end

/-- Ranks of the symbols: the steps that each can take before its first character. -/
def rank : Symbol → Nat
  | .traitBounds | .typeArguments | .typeParameters | .parameters | .whereClause | .attributeItem
  | .innerAttributeItem | .ifExpression | .arguments | .fieldInitializers | .matchBlock | .fieldList
  | .tupleFieldList | .variantList | .useList | .memberList => 3
  | .visibility => 4
  | .tokenTree | .ruleTree | .rulePattern | .block => 5
  | .literal => 7
  | .path => 9
  | .valuePath => 10
  | .ruleToken | .rulePatternToken => 12
  | .function => 13
  | .useClause => 14
  | .blockLike => 16
  | .bareType => 22
  | .primary _ => 22
  | .barePattern => 23
  | .chain _ => 24
  | .type | .item => 25
  | .bound | .pattern => 26
  | .parameter => 32
  | .operand _ => 33
  | .cast _ => 35
  | .operation level _ => max 36 (54 - 2 * level)
  | .range _ => 57
  | .expression _ => 59
  | .statement _ => 67

/-- No symbol of the grammar is read without a character. -/
theorem rust_eats (s : Symbol) : (rust s).eats = true := by
  cases s with
  | operation level braces =>
    match level with
    | 0 | 1 | 2 | 3 | 4 | 5 | 6 | 7 | 8 => rfl
    | n + 9 => rfl
  | range braces | operand braces | primary braces | statement braces => cases braces <;> rfl
  | _ => rfl

/-- The rank of a symbol bounds the steps that its rule takes before the first character. -/
theorem rust_depth_le (s : Symbol) : (rust s).depth rank ≤ rank s := by
  cases s with
  | operation level braces =>
    match level with
    | 0 | 1 | 2 | 3 | 4 | 5 | 6 | 7 | 8 => cases braces <;> decide
    | n + 9 => exact Nat.le_max_left ..
  | expression braces | range braces | operand braces | primary braces | statement braces
  | cast braces | chain braces => cases braces <;> decide
  | _ => decide

/-- What comes after a character in a rule fits into the steps that the character pays for. -/
theorem rust_fits (s : Symbol) : (rust s).fits rank depthPerChar = true := by
  cases s with
  | operation level braces =>
    match level with
    | 0 | 1 | 2 | 3 | 4 | 5 | 6 | 7 | 8 => cases braces <;> decide
    | n + 9 => rfl
  | expression braces | range braces | operand braces | primary braces | statement braces
  | cast braces | chain braces => cases braces <;> decide
  | _ => decide

/-- The text at which the reader of a gap will have to stop at the latest. -/
def Gap.start : Gap → List Char
  | .block start _ _ _ => start
  | _ => []

/-- A gap leaves no more than was there, or goes back to where it starts. -/
theorem skipGap_length_le (gap : Gap) (cs : List Char) :
    (skipGap gap cs).2.length ≤ max cs.length gap.start.length := by
  fun_induction skipGap gap cs
  all_goals simp_all [Gap.start]
  all_goals omega

theorem Cursor.after_length_le (cs : List Char) : (Cursor.after cs).rest.length ≤ cs.length :=
  Nat.le_trans (skipGap_length_le .between cs) (Nat.max_le.mpr ⟨Nat.le_refl _, Nat.zero_le _⟩)

/-- The second place is not before the first, and behind it if something was taken. -/
def Cursor.Behind (eaten : Bool) (c d : Cursor) : Prop :=
  d.rest.length ≤ c.rest.length ∧ (eaten = true → d.rest.length < c.rest.length)

namespace Cursor.Behind

variable {first second : Bool} {c d e : Cursor}

theorem refl (c : Cursor) : Behind false c c :=
  ⟨Nat.le_refl _, by simp⟩

/-- Two parts of a way make one, on which something is taken if it is on either. -/
theorem trans (start : Behind first c d) (rest : Behind second d e) :
    Behind (first || second) c e := by
  refine ⟨Nat.le_trans rest.1 start.1, fun eaten => ?_⟩
  rcases Bool.or_eq_true_iff.mp eaten with some | some
  · exact Nat.lt_of_le_of_lt rest.1 (start.2 some)
  · exact Nat.lt_of_lt_of_le (rest.2 some) start.1

theorem weaken (behind : Behind first c d) (less : second = true → first = true) :
    Behind second c d :=
  ⟨behind.1, fun eaten => behind.2 (less eaten)⟩

end Cursor.Behind

section Behind

variable {grammar : σ → Rule σ} {fuel : Nat} {first second head body : Rule σ}
  {tails : List (String × Option String × Rule σ)} {a b : Bool}

/-- Where a rule matches, it does not go back, and takes something if `eaten` says so. -/
def Advances (grammar : σ → Rule σ) (fuel : Nat) (rule : Rule σ) (eaten : Bool) : Prop :=
  ∀ ⦃c d : Cursor⦄ ⦃xs : List Node⦄, run grammar fuel rule c = some (xs, d) → c.Behind eaten d

/-- The same for the first tail that matches. -/
def TailAdvances (grammar : σ → Rule σ) (fuel : Nat)
    (tails : List (String × Option String × Rule σ)) (eaten : Bool) : Prop :=
  ∀ ⦃c d : Cursor⦄ ⦃xs ys : List Node⦄, firstTail grammar fuel tails xs c = some (ys, d) →
    c.Behind eaten d

/-- As many tails as match do not go back. -/
def TailsAdvance (grammar : σ → Rule σ) (fuel : Nat)
    (tails : List (String × Option String × Rule σ)) : Prop :=
  ∀ ⦃c d : Cursor⦄ ⦃xs ys : List Node⦄, extend grammar fuel tails xs c = (ys, d) →
    c.Behind false d

namespace Advances

theorem token {scan : Scanner} (faithful : Faithful scan) :
    Advances grammar (fuel + 1) (.token scan) true := by
  intro c d xs found
  simp only [run] at found
  split at found
  · next n rest read =>
    obtain ⟨-, rfl⟩ := Prod.mk.inj (Option.some.inj found)
    have shorter := (faithful read : Taken _ _ _).length_lt
    have gap := Cursor.after_length_le rest
    exact ⟨by omega, fun _ => by omega⟩
  · cases found

theorem skip {scan : List Char → Option (List Char)}
    (shortens : ∀ {cs rest}, scan cs = some rest → rest.length < cs.length) :
    Advances grammar (fuel + 1) (.skip scan) true := by
  intro c d xs found
  simp only [run] at found
  split at found
  · next rest read =>
    obtain ⟨-, rfl⟩ := Prod.mk.inj (Option.some.inj found)
    have shorter := shortens read
    have gap := Cursor.after_length_le rest
    exact ⟨by dsimp only; omega, fun _ => by dsimp only; omega⟩
  · cases found

theorem empty : Advances grammar (fuel + 1) .empty false := by
  intro c d xs found
  rw [run] at found
  obtain ⟨-, rfl⟩ := Prod.mk.inj (Option.some.inj found)
  exact .refl _

theorem ref {symbol : σ} (advances : Advances grammar fuel (grammar symbol) a) :
    Advances grammar (fuel + 1) (.ref symbol) a := by
  intro c d xs found
  rw [run] at found
  exact advances found

/-- A sequence takes something if either part does. -/
theorem seq (front : Advances grammar fuel first a) (back : Advances grammar fuel second b) :
    Advances grammar (fuel + 1) (.seq first second) (a || b) := by
  intro c d xs found
  simp only [run] at found
  split at found
  · next read =>
    split at found
    · next readMore =>
      obtain ⟨-, rfl⟩ := Prod.mk.inj (Option.some.inj found)
      exact (front read).trans (back readMore)
    · cases found
  · cases found

theorem alt (front : Advances grammar fuel first a) (back : Advances grammar fuel second b) :
    Advances grammar (fuel + 1) (.alt first second) (a && b) := by
  intro c d xs found
  simp only [run] at found
  split at found
  · next read =>
    rw [Option.some.inj found] at read
    exact (front read).weaken fun both => (Bool.and_eq_true_iff.mp both).1
  · exact (back found).weaken fun both => (Bool.and_eq_true_iff.mp both).2

/-- A repetition goes ahead with each round, and may take nothing at all. -/
theorem many (once : Advances grammar fuel body a)
    (again : Advances grammar fuel (.many body) false) :
    Advances grammar (fuel + 1) (.many body) false := by
  intro c d xs found
  simp only [run] at found
  split at found
  · next read =>
    split at found
    · next readMore =>
      obtain ⟨-, rfl⟩ := Prod.mk.inj (Option.some.inj found)
      exact ((once read).trans (again readMore)).weaken fun eaten => by cases eaten
    · cases found
  · obtain ⟨-, rfl⟩ := Prod.mk.inj (Option.some.inj found)
    exact .refl _

theorem node (kind : String) (inside : Advances grammar fuel body a) :
    Advances grammar (fuel + 1) (.node kind body) a := by
  intro c d xs found
  simp only [run] at found
  split at found
  · next read =>
    obtain ⟨-, rfl⟩ := Prod.mk.inj (Option.some.inj found)
    exact inside read
  · cases found

theorem role (name : String) (inside : Advances grammar fuel body a) :
    Advances grammar (fuel + 1) (.role name body) a := by
  intro c d xs found
  simp only [run] at found
  split at found
  · next read =>
    obtain ⟨-, rfl⟩ := Prod.mk.inj (Option.some.inj found)
    exact inside read
  · cases found

theorem ahead (body : Rule σ) : Advances grammar (fuel + 1) (.ahead body) false := by
  intro c d xs found
  simp only [run] at found
  split at found
  · obtain ⟨-, rfl⟩ := Prod.mk.inj (Option.some.inj found)
    exact .refl _
  · cases found

theorem butNot (body : Rule σ) : Advances grammar (fuel + 1) (.butNot body) false := by
  intro c d xs found
  simp only [run] at found
  split at found
  · cases found
  · obtain ⟨-, rfl⟩ := Prod.mk.inj (Option.some.inj found)
    exact .refl _

/-- A head with tails takes what the head does; tails only add to it. -/
theorem grow (front : Advances grammar fuel head a) (back : TailsAdvance grammar fuel tails) :
    Advances grammar (fuel + 1) (.grow head tails) a := by
  intro c d xs found
  simp only [run] at found
  split at found
  · next read =>
    exact ((front read).trans (back (Option.some.inj found))).weaken
      fun eaten => by rw [Bool.or_false]; exact eaten
  · cases found

theorem fork (front : Advances grammar fuel head a) (back : TailAdvances grammar fuel tails b) :
    Advances grammar (fuel + 1) (.fork head tails) (a || b) := by
  intro c d xs found
  simp only [run] at found
  split at found
  · next read => exact (front read).trans (back found)
  · cases found

end Advances

/-- The first tail of several takes something, or the others are tried. -/
theorem TailAdvances.cons {kind : String} {role : Option String}
    (front : Advances grammar fuel body a) (back : TailAdvances grammar fuel tails b) :
    TailAdvances grammar (fuel + 1) ((kind, role, body) :: tails) (a && b) := by
  intro c d xs ys found
  rw [firstTail] at found
  split at found
  · next read =>
    obtain ⟨-, rfl⟩ := Prod.mk.inj (Option.some.inj found)
    exact (front read).weaken fun both => (Bool.and_eq_true_iff.mp both).1
  · exact (back found).weaken fun both => (Bool.and_eq_true_iff.mp both).2

theorem TailsAdvance.step (once : TailAdvances grammar fuel tails a)
    (again : TailsAdvance grammar fuel tails) : TailsAdvance grammar (fuel + 1) tails := by
  intro c d xs ys found
  rw [extend] at found
  split at found
  · next read => exact ((once read).trans (again found)).weaken fun eaten => by cases eaten
  · obtain ⟨-, rfl⟩ := Prod.mk.inj found
    exact .refl _

/-- Matching a rule, or a tail, does not go back, and takes something where the rule says so. -/
theorem run_behind (within : ∀ s, (grammar s).Within faithful) (eats : ∀ s, (grammar s).eats = true)
    (fuel : Nat) :
    (∀ {rule : Rule σ}, rule.Within faithful → Advances grammar fuel rule rule.eats) ∧
    (∀ {tails : List (String × Option String × Rule σ)}, TailsWithin faithful tails →
      TailsAdvance grammar fuel tails) ∧
    (∀ {tails : List (String × Option String × Rule σ)}, TailsWithin faithful tails →
      TailAdvances grammar fuel tails (tailsEat tails)) := by
  induction fuel with
  | zero =>
    refine ⟨fun _ c d xs found => ?_, fun _ c d xs ys found => ?_, fun _ c d xs ys found => ?_⟩
    · simp at found
    · rw [extend] at found
      obtain ⟨-, rfl⟩ := Prod.mk.inj found
      exact .refl _
    · simp at found
  | succ fuel ih =>
    obtain ⟨ihRun, ihExtend, ihTail⟩ := ih
    refine ⟨fun {rule} shape => ?_, fun shape => .step (ihTail shape) (ihExtend shape),
      fun {tails} shape => ?_⟩
    · cases rule with
      | token scan => exact .token shape
      | skip scan => exact .skip shape
      | ref symbol =>
        have inside := ihRun (within symbol)
        rw [eats symbol] at inside
        exact .ref inside
      | empty => exact .empty
      | seq first second =>
        rcases shape with impossible | ⟨firstShape, secondShape⟩
        · exact impossible.elim
        · exact .seq (ihRun firstShape) (ihRun secondShape)
      | alt first second => exact .alt (ihRun shape.1) (ihRun shape.2)
      | many body =>
        have bodyShape : body.Within faithful := shape
        have again : Advances grammar fuel (.many body) (Rule.many body).eats := ihRun shape
        exact .many (ihRun bodyShape) again
      | node kind body =>
        have bodyShape : body.Within faithful := shape
        exact .node kind (ihRun bodyShape)
      | role name body =>
        have bodyShape : body.Within faithful := shape
        exact .role name (ihRun bodyShape)
      | ahead body => exact .ahead body
      | butNot body => exact .butNot body
      | grow head tails => exact .grow (ihRun shape.1) (ihExtend shape.2)
      | fork head tails => exact .fork (ihRun shape.1) (ihTail shape.2)
    · match tails with
      | [] =>
        intro c d xs ys found
        simp at found
      | (kind, role, rule) :: tails => exact .cons (ihRun shape.1) (ihTail shape.2)

end Behind

section Depth

variable {grammar : σ → Rule σ} {rank : σ → Nat} {limit fuel : Nat} {first second head body : Rule σ}
  {tails : List (String × Option String × Rule σ)}

/-- A grammar whose derivations end: every symbol takes something, the symbols have ranks that go
down where nothing has been taken yet, and a taken character pays for `limit` further steps. -/
structure Graded (grammar : σ → Rule σ) (rank : σ → Nat) (limit : Nat) : Prop where
  within : ∀ s, (grammar s).Within faithful
  eats : ∀ s, (grammar s).eats = true
  depth : ∀ s, (grammar s).depth rank ≤ rank s
  fits : ∀ s, (grammar s).fits rank limit = true

/-- Where something was taken there is room for a whole part of the grammar again. -/
theorem Cursor.Behind.room {eaten : Bool} {c d : Cursor} {limit depth fuel : Nat}
    (behind : c.Behind eaten d) (fits : depth ≤ limit)
    (room : limit * c.rest.length + (if eaten then 0 else depth) ≤ fuel) :
    limit * d.rest.length + depth ≤ fuel := by
  cases eaten with
  | true =>
    have paid := Nat.mul_le_mul_left limit (behind.2 rfl)
    rw [Nat.mul_succ] at paid
    simp only [↓reduceIte, Nat.add_zero] at room
    omega
  | false =>
    have kept := Nat.mul_le_mul_left limit behind.1
    simp only [Bool.false_eq_true, ↓reduceIte] at room
    omega

/-- Where the text leaves room for the depth of a rule, one more step changes nothing. -/
def Stable (grammar : σ → Rule σ) (rank : σ → Nat) (limit fuel : Nat) (rule : Rule σ) : Prop :=
  ∀ ⦃c : Cursor⦄, limit * c.rest.length + rule.depth rank ≤ fuel →
    run grammar (fuel + 1) rule c = run grammar fuel rule c

/-- The same for the first tail that matches. -/
def TailStable (grammar : σ → Rule σ) (rank : σ → Nat) (limit fuel : Nat)
    (tails : List (String × Option String × Rule σ)) : Prop :=
  ∀ ⦃c : Cursor⦄ ⦃xs : List Node⦄, limit * c.rest.length + tailsDepth rank tails ≤ fuel →
    firstTail grammar (fuel + 1) tails xs c = firstTail grammar fuel tails xs c

/-- The same for as many tails as match. -/
def TailsStable (grammar : σ → Rule σ) (rank : σ → Nat) (limit fuel : Nat)
    (tails : List (String × Option String × Rule σ)) : Prop :=
  ∀ ⦃c : Cursor⦄ ⦃xs : List Node⦄, limit * c.rest.length + (tailsDepth rank tails + 1) ≤ fuel →
    extend grammar (fuel + 1) tails xs c = extend grammar fuel tails xs c

namespace Stable

/-- The step into a symbol is covered by its rank. -/
theorem ref {symbol : σ} (down : (grammar symbol).depth rank ≤ rank symbol)
    (stable : Stable grammar rank limit fuel (grammar symbol)) :
    Stable grammar rank limit (fuel + 1) (.ref symbol) := by
  intro c room
  simp only [Rule.depth] at room
  rw [run, run]
  exact stable (by omega)

/-- Where the first part takes something, its characters pay for the second one. -/
theorem seq (moves : Advances grammar fuel first first.eats)
    (front : Stable grammar rank limit fuel first) (back : Stable grammar rank limit fuel second)
    (fits : second.depth rank ≤ limit) : Stable grammar rank limit (fuel + 1) (.seq first second) := by
  intro c room
  simp only [Rule.depth] at room
  rw [run, run, front (by omega)]
  cases read : run grammar fuel first c with
  | none => rfl
  | some found =>
    have enough : limit * found.2.rest.length + second.depth rank ≤ fuel :=
      (moves read).room fits (by omega)
    simp only [back enough]

theorem alt (front : Stable grammar rank limit fuel first)
    (back : Stable grammar rank limit fuel second) :
    Stable grammar rank limit (fuel + 1) (.alt first second) := by
  intro c room
  simp only [Rule.depth] at room
  rw [run, run, front (by omega), back (by omega)]

/-- A round takes something, which pays for the rounds after it. -/
theorem many (moves : Advances grammar fuel body true) (once : Stable grammar rank limit fuel body)
    (again : Stable grammar rank limit fuel (.many body)) (fits : body.depth rank < limit) :
    Stable grammar rank limit (fuel + 1) (.many body) := by
  intro c room
  simp only [Rule.depth] at room
  rw [run, run, once (by omega)]
  cases read : run grammar fuel body c with
  | none => rfl
  | some found =>
    have enough : limit * found.2.rest.length + (body.depth rank + 1) ≤ fuel :=
      (moves read).room fits (by simp only [↓reduceIte]; omega)
    simp only [again enough]

/-- Where the head takes something, its characters pay for the tails. -/
theorem grow (moves : Advances grammar fuel head head.eats)
    (front : Stable grammar rank limit fuel head) (back : TailsStable grammar rank limit fuel tails)
    (fits : tailsDepth rank tails < limit) :
    Stable grammar rank limit (fuel + 1) (.grow head tails) := by
  intro c room
  simp only [Rule.depth] at room
  rw [run, run, front (by omega)]
  cases read : run grammar fuel head c with
  | none => rfl
  | some found =>
    have enough : limit * found.2.rest.length + (tailsDepth rank tails + 1) ≤ fuel :=
      (moves read).room fits (by omega)
    simp only [back enough]

theorem fork (moves : Advances grammar fuel head head.eats)
    (front : Stable grammar rank limit fuel head) (back : TailStable grammar rank limit fuel tails)
    (fits : tailsDepth rank tails ≤ limit) :
    Stable grammar rank limit (fuel + 1) (.fork head tails) := by
  intro c room
  simp only [Rule.depth] at room
  rw [run, run, front (by omega)]
  cases read : run grammar fuel head c with
  | none => rfl
  | some found =>
    have enough : limit * found.2.rest.length + tailsDepth rank tails ≤ fuel :=
      (moves read).room fits (by omega)
    simp only [back enough]

end Stable

theorem TailStable.cons {kind : String} {role : Option String}
    (front : Stable grammar rank limit fuel body) (back : TailStable grammar rank limit fuel tails) :
    TailStable grammar rank limit (fuel + 1) ((kind, role, body) :: tails) := by
  intro c xs room
  simp only [tailsDepth] at room
  rw [firstTail, firstTail, front (by omega), back (by omega)]

/-- A tail takes something, which pays for the tails after it. -/
theorem TailsStable.step (moves : TailAdvances grammar fuel tails true)
    (once : TailStable grammar rank limit fuel tails)
    (again : TailsStable grammar rank limit fuel tails) (fits : tailsDepth rank tails < limit) :
    TailsStable grammar rank limit (fuel + 1) tails := by
  intro c xs room
  rw [extend, extend, once (by omega)]
  cases read : firstTail grammar fuel tails xs c with
  | none => rfl
  | some found =>
    have enough : limit * found.2.rest.length + (tailsDepth rank tails + 1) ≤ fuel :=
      (moves read).room fits (by simp only [↓reduceIte]; omega)
    simp only [again enough]

/-- More fuel than the length of the text calls for changes nothing. -/
theorem run_stable (graded : Graded grammar rank limit) (fuel : Nat) :
    (∀ {rule : Rule σ}, rule.Within faithful → rule.fits rank limit = true →
      Stable grammar rank limit fuel rule) ∧
    (∀ {tails : List (String × Option String × Rule σ)}, TailsWithin faithful tails →
      tailsFit rank limit tails = true → tailsEat tails = true → tailsDepth rank tails < limit →
      TailsStable grammar rank limit fuel tails) ∧
    (∀ {tails : List (String × Option String × Rule σ)}, TailsWithin faithful tails →
      tailsFit rank limit tails = true → TailStable grammar rank limit fuel tails) := by
  induction fuel with
  | zero =>
    -- Every rule and every list of tails has a depth, for which no room is left.
    refine ⟨fun {rule} _ _ c room => ?_, fun _ _ _ _ c xs room => by omega,
      fun {tails} _ _ c xs room => ?_⟩
    · cases rule <;> simp at room
    · cases tails <;> simp at room
  | succ fuel ih =>
    obtain ⟨ihRun, ihExtend, ihTail⟩ := ih
    obtain ⟨moves, _, tailMoves⟩ := run_behind graded.within graded.eats fuel
    refine ⟨fun {rule} shape fits => ?_, fun {tails} shape fits eats deep => ?_,
      fun {tails} shape fits => ?_⟩
    · cases rule with
      | token scan | skip scan | empty => exact fun _ _ => rfl
      | ref symbol =>
        exact .ref (graded.depth symbol) (ihRun (graded.within symbol) (graded.fits symbol))
      | seq first second =>
        rcases shape with impossible | ⟨firstShape, secondShape⟩
        · exact impossible.elim
        simp only [Rule.fits, Bool.and_eq_true, decide_eq_true_eq] at fits
        exact .seq (moves firstShape) (ihRun firstShape fits.1.1) (ihRun secondShape fits.1.2) fits.2
      | alt first second =>
        simp only [Rule.fits, Bool.and_eq_true] at fits
        exact .alt (ihRun shape.1 fits.1) (ihRun shape.2 fits.2)
      | many body =>
        have bodyShape : body.Within faithful := shape
        have bodyFits := fits
        simp only [Rule.fits, Bool.and_eq_true, decide_eq_true_eq] at bodyFits
        have bodyMoves := moves bodyShape
        rw [bodyFits.1.1] at bodyMoves
        exact .many bodyMoves (ihRun bodyShape bodyFits.1.2) (ihRun shape fits) bodyFits.2
      | node kind body | role name body | ahead body | butNot body =>
        have bodyShape : body.Within faithful := shape
        have bodyFits : body.fits rank limit = true := fits
        intro c room
        simp only [Rule.depth] at room
        rw [run, run, ihRun bodyShape bodyFits (by omega)]
      | grow head tails =>
        simp only [Rule.fits, Bool.and_eq_true, decide_eq_true_eq] at fits
        obtain ⟨⟨⟨headFits, tailsEat⟩, tailsFit⟩, deep⟩ := fits
        exact .grow (moves shape.1) (ihRun shape.1 headFits) (ihExtend shape.2 tailsFit tailsEat deep)
          deep
      | fork head tails =>
        simp only [Rule.fits, Bool.and_eq_true, decide_eq_true_eq] at fits
        exact .fork (moves shape.1) (ihRun shape.1 fits.1.1) (ihTail shape.2 fits.1.2) fits.2
    · have tailsMove := tailMoves shape
      rw [eats] at tailsMove
      exact .step tailsMove (ihTail shape fits) (ihExtend shape fits eats deep) deep
    · match tails with
      | [] => exact fun _ _ _ => rfl
      | (kind, role, rule) :: tails =>
        simp only [tailsFit, Bool.and_eq_true] at fits
        exact .cons (ihRun shape.1 fits.1) (ihTail shape.2 fits.2)

end Depth

theorem rust_graded : Graded rust rank depthPerChar :=
  ⟨rust_faithful, rust_eats, rust_depth_le, rust_fits⟩

/-- The fuel that is given for a text is enough: with any more, its tree is the same. -/
theorem parse_run_eq (cs : List Char) {fuel : Nat} (more : depthPerChar * (cs.length + 1) ≤ fuel) :
    run rust fuel sourceFile (.after cs) =
      run rust (depthPerChar * (cs.length + 1)) sourceFile (.after cs) := by
  have shape : sourceFile.Within faithful := by simp [sourceFile, faithful]
  have fits : sourceFile.fits rank depthPerChar = true := by decide
  have depth : sourceFile.depth rank ≤ depthPerChar := by decide
  have gap := Nat.mul_le_mul_left depthPerChar (Cursor.after_length_le cs)
  induction more with
  | refl => rfl
  | @step fuel more ih =>
    have enough : depthPerChar * cs.length + depthPerChar ≤ fuel := more
    rw [← ih]
    exact (run_stable rust_graded fuel).1 shape fits (by omega)

end CrateSurface.Grammar
