import CrateSurface.Proofs.ForestsAlike
import CrateSurface.Proofs.GrammarRules

namespace CrateSurface.Grammar

variable {σ : Type} {grammar : σ → Rule σ} {R S T : List Char → List Char → Prop}

/-- Two places with related texts ahead; the comments before them do not matter. -/
structure Cursor.InStep (R : List Char → List Char → Prop) (c d : Cursor) : Prop where
  left : ∀ n ∈ c.comments, IsRemark n
  right : ∀ n ∈ d.comments, IsRemark n
  ahead : R c.rest d.rest

/-- Two attempts that both fail, or both match with forests that are alike and end in step. -/
inductive Outcomes (R : List Char → List Char → Prop) :
    Option (List Node × Cursor) → Option (List Node × Cursor) → Prop
  | none : Outcomes R none none
  | some {xs ys : List Node} {c d : Cursor} : Alike xs ys → c.InStep R d →
      Outcomes R (some (xs, c)) (some (ys, d))

/-- A scanner finds the same token in related texts, and leaves related texts behind it. -/
def Passes (R S : List Char → List Char → Prop) (scan : Scanner) : Prop :=
  ∀ ⦃u v⦄, R u v → scan u = none ∧ scan v = none ∨ ∃ n u' v', scan u = some (n, u') ∧
    scan v = some (n, v') ∧ S (Cursor.after u').rest (Cursor.after v').rest

/-- A scanner finds the same in related texts, and leaves texts that are related as before. -/
def Agrees (R : List Char → List Char → Prop) : Scanner → Prop :=
  Passes R R

/-- A rule leads from related texts to related texts. -/
def Leads (grammar : σ → Rule σ) (R S : List Char → List Char → Prop) (rule : Rule σ) : Prop :=
  ∀ ⦃fuel : Nat⦄ ⦃c d : Cursor⦄, c.InStep R d →
    Outcomes S (run grammar fuel rule c) (run grammar fuel rule d)

/-- Rules whose scanners agree on related texts; sequences for which this is known otherwise may
stand among them. -/
def inStep (grammar : σ → Rule σ) (R : List Char → List Char → Prop) (symbols : σ → Prop) :
    Permit σ where
  token := Agrees R
  skip scan := ∀ ⦃u v⦄, R u v → scan u = none ∧ scan v = none ∨ ∃ u' v', scan u = some u' ∧
    scan v = some v' ∧ R (Cursor.after u').rest (Cursor.after v').rest
  ref := symbols
  whole first second := Leads grammar R R (.seq first second)

theorem Cursor.InStep.mono {c d : Cursor} (step : c.InStep R d) (less : ∀ {u v}, R u v → S u v) :
    c.InStep S d :=
  ⟨step.left, step.right, less step.ahead⟩

theorem Outcomes.mono {a b : Option (List Node × Cursor)} (outcomes : Outcomes R a b)
    (less : ∀ {u v}, R u v → S u v) : Outcomes S a b := by
  cases outcomes with
  | none => exact .none
  | some alike step => exact .some alike (step.mono less)

/-- Outcomes in step are both nothing, or both something. -/
theorem Outcomes.split {a b : Option (List Node × Cursor)} (outcomes : Outcomes R a b) :
    a = .none ∧ b = .none ∨ ∃ xs ys c d, a = .some (xs, c) ∧ b = .some (ys, d) ∧ Alike xs ys ∧
      c.InStep R d := by
  cases outcomes with
  | none => exact .inl ⟨rfl, rfl⟩
  | some alike step => exact .inr ⟨_, _, _, _, rfl, rfl, alike, step⟩

/-- A gap holds comments and nothing else. -/
theorem skipGap_comments (gap : Gap) (cs : List Char) :
    ∀ n ∈ (skipGap gap cs).1, IsRemark n := by
  have remark : ∀ kind text, kind = "line_comment" ∨ kind = "block_comment" →
      IsRemark (commentLeaf kind text) := by
    rintro kind text (rfl | rfl)
    · exact ⟨⟨rfl, rfl, rfl⟩, rfl⟩
    · exact ⟨⟨rfl, rfl, rfl⟩, rfl⟩
  fun_induction skipGap gap cs
  all_goals simp_all

/-- Behind a token, the places are in step if the texts are. -/
theorem Cursor.inStep_after {u v : List Char}
    (ahead : R (Cursor.after u).rest (Cursor.after v).rest) :
    (Cursor.after u).InStep R (Cursor.after v) :=
  ⟨skipGap_comments .between u, skipGap_comments .between v, ahead⟩

namespace Outcomes

variable {first second head body : Rule σ} {tails : List (String × Option String × Rule σ)}
  {fuel : Nat} {c d : Cursor} {xs ys : List Node}

theorem token {scan : Scanner} (here : c.InStep R d) (passes : Passes R S scan) :
    Outcomes S (run grammar (fuel + 1) (.token scan) c) (run grammar (fuel + 1) (.token scan) d) := by
  rw [run, run]
  rcases passes here.ahead with ⟨left, right⟩ | ⟨n, u', v', left, right, ahead⟩
  · rw [left, right]
    exact .none
  · rw [left, right]
    exact .some ((Alike.comments here.left here.right).append (Alike.refl [n]))
      (Cursor.inStep_after ahead)

/-- A skipped text that is one for both keeps cursors in step. -/
theorem skip {scan : List Char → Option (List Char)} (here : c.InStep R d)
    (passes : ∀ ⦃u v⦄, R u v → scan u = .none ∧ scan v = .none ∨ ∃ u' v', scan u = .some u' ∧
      scan v = .some v' ∧ S (Cursor.after u').rest (Cursor.after v').rest) :
    Outcomes S (run grammar (fuel + 1) (.skip scan) c) (run grammar (fuel + 1) (.skip scan) d) := by
  rw [run, run]
  rcases passes here.ahead with ⟨left, right⟩ | ⟨u', v', left, right, ahead⟩
  · rw [left, right]
    exact .none
  · rw [left, right]
    have after := Cursor.inStep_after ahead
    exact .some .nil ⟨fun n member => (List.mem_append.mp member).elim (here.left n) (after.left n),
      fun n member => (List.mem_append.mp member).elim (here.right n) (after.right n), ahead⟩

theorem seq (front : Outcomes R (run grammar fuel first c) (run grammar fuel first d))
    (back : ∀ {c d}, c.InStep R d →
      Outcomes S (run grammar fuel second c) (run grammar fuel second d)) :
    Outcomes S (run grammar (fuel + 1) (.seq first second) c)
      (run grammar (fuel + 1) (.seq first second) d) := by
  rw [run, run]
  rcases front.split with ⟨left, right⟩ | ⟨_, _, _, _, left, right, alike, step⟩
  · rw [left, right]
    exact .none
  · rw [left, right]
    dsimp only
    rcases (back step).split with ⟨left, right⟩ | ⟨_, _, _, _, left, right, alikeToo, step⟩
    · rw [left, right]
      exact .none
    · rw [left, right]
      exact .some (alike.append alikeToo) step

/-- The same way of a choice is taken for both. -/
theorem alt (front : Outcomes R (run grammar fuel first c) (run grammar fuel first d))
    (back : Outcomes R (run grammar fuel second c) (run grammar fuel second d)) :
    Outcomes R (run grammar (fuel + 1) (.alt first second) c)
      (run grammar (fuel + 1) (.alt first second) d) := by
  rw [run, run]
  rcases front.split with ⟨left, right⟩ | ⟨_, _, _, _, left, right, alike, step⟩
  · rw [left, right]
    exact back
  · rw [left, right]
    exact .some alike step

/-- A repetition has the same rounds for both. -/
theorem many (here : c.InStep S d)
    (once : Outcomes R (run grammar fuel body c) (run grammar fuel body d))
    (again : ∀ {c d}, c.InStep R d →
      Outcomes S (run grammar fuel (.many body) c) (run grammar fuel (.many body) d)) :
    Outcomes S (run grammar (fuel + 1) (.many body) c) (run grammar (fuel + 1) (.many body) d) := by
  rw [run, run]
  rcases once.split with ⟨left, right⟩ | ⟨_, _, _, _, left, right, alike, step⟩
  · rw [left, right]
    exact .some .nil here
  · rw [left, right]
    dsimp only
    rcases (again step).split with ⟨left, right⟩ | ⟨_, _, _, _, left, right, alikeToo, step⟩
    · rw [left, right]
      exact .none
    · rw [left, right]
      exact .some (alike.append alikeToo) step

theorem node (kind : String)
    (inside : Outcomes R (run grammar fuel body c) (run grammar fuel body d)) :
    Outcomes R (run grammar (fuel + 1) (.node kind body) c)
      (run grammar (fuel + 1) (.node kind body) d) := by
  rw [run, run]
  rcases inside.split with ⟨left, right⟩ | ⟨_, _, _, _, left, right, alike, step⟩
  · rw [left, right]
    exact .none
  · rw [left, right]
    exact .some (alike.wrap kind) step

theorem role (name : String)
    (inside : Outcomes R (run grammar fuel body c) (run grammar fuel body d)) :
    Outcomes R (run grammar (fuel + 1) (.role name body) c)
      (run grammar (fuel + 1) (.role name body) d) := by
  rw [run, run]
  rcases inside.split with ⟨left, right⟩ | ⟨_, _, _, _, left, right, alike, step⟩
  · rw [left, right]
    exact .none
  · rw [left, right]
    exact .some (alike.giveRole name) step

/-- What a look ahead finds does not matter, only whether it finds something. -/
theorem ahead (here : c.InStep S d)
    (inside : Outcomes R (run grammar fuel body c) (run grammar fuel body d)) :
    Outcomes S (run grammar (fuel + 1) (.ahead body) c) (run grammar (fuel + 1) (.ahead body) d) := by
  rw [run, run]
  rcases inside.split with ⟨left, right⟩ | ⟨_, _, _, _, left, right, -, -⟩
  · rw [left, right]
    exact .none
  · rw [left, right]
    exact .some .nil here

/-- What must not be ahead is missing for both or for neither. -/
theorem butNot (here : c.InStep S d)
    (inside : Outcomes R (run grammar fuel body c) (run grammar fuel body d)) :
    Outcomes S (run grammar (fuel + 1) (.butNot body) c)
      (run grammar (fuel + 1) (.butNot body) d) := by
  rw [run, run]
  rcases inside.split with ⟨left, right⟩ | ⟨_, _, _, _, left, right, -, -⟩
  · rw [left, right]
    exact .some .nil here
  · rw [left, right]
    exact .none

theorem grow (front : Outcomes R (run grammar fuel head c) (run grammar fuel head d))
    (back : ∀ {c d xs ys}, Alike xs ys → c.InStep R d →
      Outcomes S (.some (extend grammar fuel tails xs c)) (.some (extend grammar fuel tails ys d))) :
    Outcomes S (run grammar (fuel + 1) (.grow head tails) c)
      (run grammar (fuel + 1) (.grow head tails) d) := by
  rw [run, run]
  rcases front.split with ⟨left, right⟩ | ⟨_, _, _, _, left, right, alike, step⟩
  · rw [left, right]
    exact .none
  · rw [left, right]
    exact back alike step

theorem fork (front : Outcomes R (run grammar fuel head c) (run grammar fuel head d))
    (back : ∀ {c d xs ys}, Alike xs ys → c.InStep R d →
      Outcomes S (firstTail grammar fuel tails xs c) (firstTail grammar fuel tails ys d)) :
    Outcomes S (run grammar (fuel + 1) (.fork head tails) c)
      (run grammar (fuel + 1) (.fork head tails) d) := by
  rw [run, run]
  rcases front.split with ⟨left, right⟩ | ⟨_, _, _, _, left, right, alike, step⟩
  · rw [left, right]
    exact .none
  · rw [left, right]
    exact back alike step

/-- The same tail of several is taken for both. -/
theorem tail (kind : String) (role : Option String) (alike : Alike xs ys)
    (matched : Outcomes R (run grammar fuel body c) (run grammar fuel body d))
    (others : Outcomes R (firstTail grammar fuel tails xs c) (firstTail grammar fuel tails ys d)) :
    Outcomes R (firstTail grammar (fuel + 1) ((kind, role, body) :: tails) xs c)
      (firstTail grammar (fuel + 1) ((kind, role, body) :: tails) ys d) := by
  rw [firstTail, firstTail]
  rcases matched.split with ⟨left, right⟩ | ⟨_, _, _, _, left, right, back, step⟩
  · rw [left, right]
    exact others
  · rw [left, right]
    exact .some (alike.wrapTail kind role back) step

theorem extended (alike : Alike xs ys) (here : c.InStep S d)
    (once : Outcomes R (firstTail grammar fuel tails xs c) (firstTail grammar fuel tails ys d))
    (again : ∀ {c d xs ys}, Alike xs ys → c.InStep R d →
      Outcomes S (.some (extend grammar fuel tails xs c)) (.some (extend grammar fuel tails ys d))) :
    Outcomes S (.some (extend grammar (fuel + 1) tails xs c))
      (.some (extend grammar (fuel + 1) tails ys d)) := by
  rw [extend, extend]
  rcases once.split with ⟨left, right⟩ | ⟨_, _, _, _, left, right, alike, step⟩
  · rw [left, right]
    exact .some alike here
  · rw [left, right]
    exact again alike step

end Outcomes

/-- Rules whose scanners agree on related texts match related texts alike. -/
theorem run_inStep {symbols : σ → Prop}
    (closed : ∀ s, symbols s → (grammar s).Within (inStep grammar R symbols)) (fuel : Nat) :
    (∀ {rule : Rule σ} {c d : Cursor}, rule.Within (inStep grammar R symbols) → c.InStep R d →
      Outcomes R (run grammar fuel rule c) (run grammar fuel rule d)) ∧
    (∀ {tails : List (String × Option String × Rule σ)} {c d : Cursor} {xs ys : List Node},
      TailsWithin (inStep grammar R symbols) tails → Alike xs ys → c.InStep R d →
      Outcomes R (some (extend grammar fuel tails xs c)) (some (extend grammar fuel tails ys d))) ∧
    (∀ {tails : List (String × Option String × Rule σ)} {c d : Cursor} {xs ys : List Node},
      TailsWithin (inStep grammar R symbols) tails → Alike xs ys → c.InStep R d →
      Outcomes R (firstTail grammar fuel tails xs c) (firstTail grammar fuel tails ys d)) := by
  -- The three recursions call each other with less fuel, so one induction carries them all.
  induction fuel with
  | zero =>
    refine ⟨fun _ _ => ?_, fun _ alike step => ?_, fun _ _ _ => ?_⟩
    · rw [run, run]
      exact .none
    · rw [extend, extend]
      exact .some alike step
    · rw [firstTail, firstTail]
      exact .none
  | succ fuel ih =>
    obtain ⟨ihRun, ihExtend, ihTail⟩ := ih
    refine ⟨fun {rule c d} shape step => ?_, fun {tails c d xs ys} shape alike step => ?_,
      fun {tails c d xs ys} shape alike step => ?_⟩
    · cases rule with
      | token scan => exact .token step shape
      | skip scan => exact .skip step shape
      | ref symbol =>
        rw [run, run]
        exact ihRun (closed symbol shape) step
      | empty =>
        rw [run, run]
        exact .some .nil step
      | seq first second =>
        rcases shape with whole | ⟨firstShape, secondShape⟩
        · -- The sequence is among those for which the agreement is known otherwise.
          exact whole step
        · exact .seq (ihRun firstShape step) (ihRun secondShape)
      | alt first second => exact .alt (ihRun shape.1 step) (ihRun shape.2 step)
      | many body =>
        have bodyShape : body.Within (inStep grammar R symbols) := shape
        exact .many step (ihRun bodyShape step) (ihRun shape)
      | node kind body =>
        have bodyShape : body.Within (inStep grammar R symbols) := shape
        exact .node kind (ihRun bodyShape step)
      | role name body =>
        have bodyShape : body.Within (inStep grammar R symbols) := shape
        exact .role name (ihRun bodyShape step)
      | ahead body =>
        have bodyShape : body.Within (inStep grammar R symbols) := shape
        exact .ahead step (ihRun bodyShape step)
      | butNot body =>
        have bodyShape : body.Within (inStep grammar R symbols) := shape
        exact .butNot step (ihRun bodyShape step)
      | grow head tails => exact .grow (ihRun shape.1 step) (ihExtend shape.2)
      | fork head tails => exact .fork (ihRun shape.1 step) (ihTail shape.2)
    · exact .extended alike step (ihTail shape alike step) (ihExtend shape)
    · match tails with
      | [] =>
        rw [firstTail, firstTail]
        exact .none
      | (kind, role, rule) :: tails =>
        exact .tail kind role alike (ihRun shape.1 step) (ihTail shape.2 alike step)

namespace Leads

variable {first second head body : Rule σ} {tails : List (String × Option String × Rule σ)}

theorem mono (leads : Leads grammar R S body) (less : ∀ {u v}, S u v → T u v) :
    Leads grammar R T body :=
  fun _ _ _ step => (leads step).mono less

theorem token {scan : Scanner} (passes : Passes R S scan) :
    Leads grammar R S (.token scan) := by
  intro fuel c d step
  cases fuel with
  | zero => exact .none
  | succ fuel => exact .token step passes

theorem ref {symbol : σ} (leads : Leads grammar R S (grammar symbol)) :
    Leads grammar R S (.ref symbol) := by
  intro fuel c d step
  cases fuel with
  | zero => exact .none
  | succ fuel =>
    rw [run, run]
    exact leads step

/-- What the first part leads to is where the second one starts. -/
theorem seq (front : Leads grammar R S first) (back : Leads grammar S T second) :
    Leads grammar R T (.seq first second) := by
  intro fuel c d step
  cases fuel with
  | zero => exact .none
  | succ fuel => exact .seq (front step) (back ·)

theorem alt (front : Leads grammar R S first) (back : Leads grammar R S second) :
    Leads grammar R S (.alt first second) := by
  intro fuel c d step
  cases fuel with
  | zero => exact .none
  | succ fuel => exact .alt (front step) (back step)

theorem node (kind : String) (inside : Leads grammar R S body) :
    Leads grammar R S (.node kind body) := by
  intro fuel c d step
  cases fuel with
  | zero => exact .none
  | succ fuel => exact .node kind (inside step)

theorem role (name : String) (inside : Leads grammar R S body) :
    Leads grammar R S (.role name body) := by
  intro fuel c d step
  cases fuel with
  | zero => exact .none
  | succ fuel => exact .role name (inside step)

/-- A repetition that either stays where it is or goes on from places that were left for good. -/
theorem many (once : Leads grammar R (fun u v => R u v ∨ S u v) body)
    (again : Leads grammar S S (.many body)) :
    Leads grammar R (fun u v => R u v ∨ S u v) (.many body) := by
  intro fuel
  induction fuel with
  | zero => exact fun _ _ _ => .none
  | succ fuel ih =>
    intro c d step
    refine .many (step.mono .inl) (once step) fun {c d} behind => ?_
    rcases behind.ahead with here | left
    · exact ih ⟨behind.left, behind.right, here⟩
    · exact (again ⟨behind.left, behind.right, left⟩).mono .inr

/-- A head and a tail lead where each of the tails does. -/
theorem fork (front : Leads grammar R S head) (back : ∀ tail ∈ tails, Leads grammar S T tail.2.2) :
    Leads grammar R T (.fork head tails) := by
  have behind : ∀ fuel {c d : Cursor} {xs ys : List Node}, Alike xs ys → c.InStep S d →
      Outcomes T (firstTail grammar fuel tails xs c) (firstTail grammar fuel tails ys d) := by
    clear front
    induction tails with
    | nil => intro fuel; cases fuel <;> exact fun _ _ => .none
    | cons tail tails ih =>
      intro fuel c d xs ys alike step
      cases fuel with
      | zero => exact .none
      | succ fuel =>
        exact .tail tail.1 tail.2.1 alike (back tail (List.mem_cons_self ..) step)
          (ih (fun tail member => back tail (List.mem_cons_of_mem _ member)) fuel alike step)
  intro fuel c d step
  cases fuel with
  | zero => exact .none
  | succ fuel => exact .fork (front step) (behind fuel)

end Leads

mutual

/-- A permission for every scanner and every symbol is one for every rule. -/
theorem Rule.within_of_all {permit : Permit σ} (token : ∀ scan, permit.token scan)
    (skip : ∀ scan, permit.skip scan) (ref : ∀ s, permit.ref s) :
    (rule : Rule σ) → rule.Within permit
  | .token scan => token scan
  | .skip scan => skip scan
  | .ref symbol => ref symbol
  | .empty => trivial
  | .seq first second =>
    .inr ⟨first.within_of_all token skip ref, second.within_of_all token skip ref⟩
  | .alt first second =>
    ⟨first.within_of_all token skip ref, second.within_of_all token skip ref⟩
  | .many body | .node _ body | .role _ body | .ahead body | .butNot body =>
    body.within_of_all token skip ref
  | .grow head tails | .fork head tails =>
    ⟨head.within_of_all token skip ref, tailsWithin_of_all token skip ref tails⟩

theorem tailsWithin_of_all {permit : Permit σ} (token : ∀ scan, permit.token scan)
    (skip : ∀ scan, permit.skip scan) (ref : ∀ s, permit.ref s) :
    (tails : List (String × Option String × Rule σ)) → TailsWithin permit tails
  | [] => trivial
  | (_, _, rule) :: tails =>
    ⟨rule.within_of_all token skip ref, tailsWithin_of_all token skip ref tails⟩

end

/-- A scanner finds the same in the same text. -/
theorem passes_sameText (same : ∀ text, S text text) (scan : Scanner) : Passes Eq S scan := by
  rintro u _ rfl
  cases read : scan u with
  | none => exact .inl ⟨rfl, rfl⟩
  | some found => exact .inr ⟨found.1, found.2, found.2, rfl, rfl, same _⟩

/-- The comments before a place do not matter to any rule. -/
theorem within_sameText (rule : Rule σ) : rule.Within (inStep grammar Eq fun _ => True) := by
  refine Rule.within_of_all (passes_sameText fun _ => rfl) ?_ (fun _ => trivial) rule
  · rintro scan u _ rfl
    cases read : scan u with
    | none => exact .inl ⟨rfl, rfl⟩
    | some rest => exact .inr ⟨rest, rest, rfl, rfl, rfl⟩

/-- A rule leads from the same text to the same text. -/
theorem leads_sameText (rule : Rule σ) : Leads grammar Eq Eq rule :=
  fun fuel _ _ => (run_inStep (fun _ _ => within_sameText _) fuel).1 (within_sameText rule)

section Fails

variable {c : Cursor}

/-- A rule does not match at a place, whatever the fuel. -/
def Fails (grammar : σ → Rule σ) (rule : Rule σ) (c : Cursor) : Prop :=
  ∀ fuel, run grammar fuel rule c = none

theorem Fails.token {scan : Scanner} (none : scan c.rest = .none) : Fails grammar (.token scan) c := by
  intro fuel
  cases fuel with
  | zero => rfl
  | succ fuel => rw [run, none]

/-- A sequence fails with its first part. -/
theorem Fails.seq {first : Rule σ} (fails : Fails grammar first c) (second : Rule σ) :
    Fails grammar (.seq first second) c := by
  intro fuel
  cases fuel with
  | zero => rfl
  | succ fuel => rw [run, fails fuel]

theorem Fails.alt {first second : Rule σ} (fails : Fails grammar first c)
    (failsToo : Fails grammar second c) : Fails grammar (.alt first second) c := by
  intro fuel
  cases fuel with
  | zero => rfl
  | succ fuel => rw [run, fails fuel, failsToo fuel]

theorem Fails.node {body : Rule σ} (fails : Fails grammar body c) (kind : String) :
    Fails grammar (.node kind body) c := by
  intro fuel
  cases fuel with
  | zero => rfl
  | succ fuel => rw [run, fails fuel]

theorem Fails.ref {symbol : σ} (fails : Fails grammar (grammar symbol) c) :
    Fails grammar (.ref symbol) c := by
  intro fuel
  cases fuel with
  | zero => rfl
  | succ fuel => rw [run, fails fuel]

/-- A sequence fails if its second part does wherever the first one ends. -/
theorem Fails.seq_second {first second : Rule σ}
    (fails : ∀ fuel xs d, run grammar fuel first c = some (xs, d) → Fails grammar second d) :
    Fails grammar (.seq first second) c := by
  intro fuel
  cases fuel with
  | zero => rfl
  | succ fuel =>
    rw [run]
    split
    · next found => rw [fails _ _ _ found fuel]
    · rfl

/-- A rule that fails at related places leads anywhere. -/
theorem Leads.of_fails {rule : Rule σ} (fails : ∀ {c d : Cursor}, R c.rest d.rest →
    Fails grammar rule c ∧ Fails grammar rule d) : Leads grammar R S rule := by
  intro fuel c d step
  obtain ⟨left, right⟩ := fails step.ahead
  rw [left fuel, right fuel]
  exact .none

end Fails

end CrateSurface.Grammar
