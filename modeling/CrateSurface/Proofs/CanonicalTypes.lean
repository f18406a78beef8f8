import CrateSurface.Proofs.JoinedTokens
import CrateSurface.Proofs.OpeningFunctions
import CrateSurface.Proofs.ReadingDepth

namespace CrateSurface.Grammar

section Declared

/-- A function with one parameter of the type that the text spells. -/
def declare (type : List Char) : List Char :=
  "fn f(x: ".toList ++ (type ++ ending)

/-- The type of the first parameter of the first function. -/
def parameterType? (root : Node) : Option Node := do
  let function ← root.childOfKind? "function_item"
  let parameters ← function.childByField? "parameters"
  let parameter ← parameters.childOfKind? "parameter"
  parameter.childByField? "type"

variable {tokens : List String} {u v : List Char}

theorem Spells.declared (spelt : Spells tokens u) :
    Spells ("f" :: "(" :: "x" :: ":" :: tokens) (" f(x: ".toList ++ u) := by
  have stops : ∀ (token : List Char) (c : Char) (rest : List Char), runsOn token c = false →
      Stops (runsOn token) (c :: rest) := by
    intro token c rest silent d head
    rw [← Option.some.inj head]
    exact silent
  have typed : Spells (":" :: tokens) (":".toList ++ (' ' :: u)) :=
    .cons .nil (stops _ _ _ (by decide +kernel)) (spelt.gap (.blank rfl))
  have named : Spells ("x" :: ":" :: tokens) ("x".toList ++ (":".toList ++ (' ' :: u))) :=
    .cons .nil (stops _ _ _ (by decide +kernel)) typed
  have opened : Spells ("(" :: "x" :: ":" :: tokens)
      ("(".toList ++ ("x".toList ++ (":".toList ++ (' ' :: u)))) :=
    .cons .nil (stops _ _ _ (by decide +kernel)) named
  exact .cons (IsGap.blank rfl) (stops _ _ _ (by decide +kernel)) opened

theorem sameTokens_declare (plain : isPlainType tokens = true) (left : Spells tokens u)
    (right : Spells tokens v) : SameTokens ending (declare u) (declare v) := by
  have plainAll : isPlainType ("fn" :: "f" :: "(" :: "x" :: ":" :: tokens) = true := by
    have front : ∀ token ∈ ["fn", "f", "(", "x", ":"], isTypeToken token = true := by decide +kernel
    simp only [List.forall_mem_cons] at front
    simp only [isPlainType, front, plain, fitsBefore]
    rfl
  have stops : ∀ text, Stops (runsOn "fn".toList) (" f(x: ".toList ++ text ++ ending) := by
    intro text c head
    rw [← Option.some.inj head]
    exact not_runsOn_blank _
  have split : ∀ text, declare text = "fn".toList ++ (" f(x: ".toList ++ text ++ ending) :=
    fun _ => rfl
  rw [split, split]
  exact .token plainAll left.declared right.declared (stops u) (stops v)

/-- If one text ends, so does the other: there is a bracket behind every length. -/
theorem AroundFunction.finished {left right rest : List Char}
    (ends : AroundFunction left right [] rest) : rest = [] := by
  rcases ends with ⟨impossible, -⟩ | ends
  · cases impossible
  · generalize first : [] = u at ends
    cases ends with
    | same => rfl
    | length isLength _ place =>
      cases place with
      | length =>
        obtain ⟨c, letters, same, -⟩ := isLength.isLength.head
        rw [same] at first
        cases first
      | closing => cases first

/-- The tree of a declaration, with any fuel that is enough for it. -/
theorem parse_declare_eq {fuel : Nat} (enough : depthPerChar * ((declare u).length + 1) ≤ fuel) :
    parse (declare u) = match run rust fuel sourceFile (.after (declare u)) with
      | some (forest, ⟨comments, []⟩) => wellFormedTree (forest ++ comments)
      | _ => faultyTree (declare u) := by
  rw [parse_run_eq (declare u) enough]
  rfl

/-- Texts that spell the same plain type declare functions that are read alike. -/
theorem parse_declare (plain : isPlainType tokens = true) (left : Spells tokens u)
    (right : Spells tokens v) (sound : (parse (declare u)).hasFault = false) :
    (parse (declare v)).hasFault = false ∧ NodesAlike (parse (declare u)) (parse (declare v)) := by
  obtain ⟨fuel, enough, enoughToo⟩ : ∃ fuel, depthPerChar * ((declare u).length + 1) ≤ fuel ∧
      depthPerChar * ((declare v).length + 1) ≤ fuel := ⟨_, le_max_left _ _, le_max_right _ _⟩
  have place : ∀ text, (Cursor.after (declare text)).rest = declare text :=
    fun text => after_cons (c := 'f') rfl (by decide) _
  have start : (Cursor.after (declare u)).InStep
      (AtFunction ("f(x: ".toList ++ (u ++ ending)) ("f(x: ".toList ++ (v ++ ending)))
      (Cursor.after (declare v)) := by
    refine Cursor.inStep_after ?_
    rw [place, place]
    exact ⟨rfl, rfl⟩
  have outcomes : Outcomes _ (run rust fuel sourceFile _) (run rust fuel sourceFile _) :=
    leads_sourceFile (sameTokens_declare plain left right) start
  rw [parse_declare_eq enough] at sound ⊢
  rw [parse_declare_eq enoughToo]
  rcases outcomes.split with ⟨none, -⟩ | ⟨xs, ys, c, d, found, foundToo, alike, ends⟩
  · rw [none] at sound
    cases sound
  · obtain ⟨comments, rest⟩ := c
    obtain ⟨commentsToo, restToo⟩ := d
    rw [found] at sound ⊢
    rw [foundToo]
    have finished : rest = [] := by
      cases rest with
      | nil => rfl
      | cons => cases sound
    subst finished
    obtain rfl : restToo = [] := ends.ahead.finished
    have below := alike.append (Alike.comments ends.left ends.right)
    refine ⟨?_, .inr ⟨_, _, _, _, below, rfl, rfl⟩⟩
    exact below.anyFault_eq.symm.trans sound

theorem NodesAlike.parameterType? {n m : Node} (alike : NodesAlike n m) :
    Option.Rel NodesAlike (parameterType? n) (parameterType? m) :=
  rel_bind (alike.childOfKind? (by decide)) fun function =>
    rel_bind (function.childByField? _) fun parameters =>
      rel_bind (parameters.childOfKind? (by decide)) fun parameter => parameter.childByField? _

/-- The canonical text of a type is a fixed point: where it is declared instead of the text that it
was made from, the function is still read without faults, and the type has the same canonical text
again. -/
theorem declare_render_fixed {text : String} {type : Node}
    (sound : (parse (declare text.toList)).hasFault = false)
    (typed : parameterType? (parse (declare text.toList)) = some type)
    (spelt : Spells type.tokens text.toList) (plain : isPlainType type.tokens = true)
    (apart : type.tokens.IsChain fun a b => clings a b = false) :
    (parse (declare type.render.toList)).hasFault = false ∧
      (parameterType? (parse (declare type.render.toList))).map Node.render = some type.render := by
  obtain ⟨soundToo, alike⟩ := parse_declare plain spelt (join_spells plain apart) sound
  refine ⟨soundToo, ?_⟩
  have types := alike.parameterType?
  rw [typed] at types
  show (parameterType? (parse (declare (Spelling.join type.tokens).toList))).map Node.render = _
  generalize parameterType? (parse (declare (Spelling.join type.tokens).toList)) = found at types ⊢
  cases types with
  | some same => exact congrArg some (congrArg Spelling.join same.tokens_eq.symm)

theorem declare_render_fixed_array :
    (parse (declare "Vec < [u8 ; 4] >".toList)).hasFault = false ∧
      (parse (declare "Vec<[u8; 4]>".toList)).hasFault = false ∧
      (parameterType? (parse (declare "Vec<[u8; 4]>".toList))).map Node.render =
        some "Vec<[u8; 4]>" := by
  have sound : (parse (declare "Vec < [u8 ; 4] >".toList)).hasFault = false := by decide +kernel
  have found : ((parameterType? (parse (declare "Vec < [u8 ; 4] >".toList))).map Node.tokens) =
      some ["Vec", "<", "[", "u8", ";", "4", "]", ">"] := by decide +kernel
  obtain ⟨type, typed, tokens⟩ := Option.map_eq_some_iff.mp found
  have render : type.render = "Vec<[u8; 4]>" := by
    rw [Node.render, tokens]
    decide +kernel
  have spelt : Spells type.tokens "Vec < [u8 ; 4] >".toList := by
    rw [tokens]
    exact .cons .nil (by decide +kernel) <| .cons (.blank rfl) (by decide +kernel) <|
      .cons (.blank rfl) (by decide +kernel) <| .cons .nil (by decide +kernel) <|
      .cons (.blank rfl) (by decide +kernel) <| .cons (.blank rfl) (by decide +kernel) <|
      .cons .nil (by decide +kernel) <| .cons (.blank rfl) (by decide +kernel) <| .nil .nil
  have fixed := declare_render_fixed sound typed spelt (by rw [tokens]; decide +kernel)
    (by rw [tokens]; decide)
  rw [render] at fixed
  exact ⟨sound, fixed⟩

/-- A path that begins with two colons runs into a colon before it, so that the canonical text of
such a bound cannot be read. -/
theorem declare_render_not_fixed :
    (parse (declare "I<J: ::K>".toList)).hasFault = false ∧
      (parameterType? (parse (declare "I<J: ::K>".toList))).map Node.render = some "I<J:::K>" ∧
      (parse (declare "I<J:::K>".toList)).hasFault = true := by
  decide +kernel

end Declared

end CrateSurface.Grammar
