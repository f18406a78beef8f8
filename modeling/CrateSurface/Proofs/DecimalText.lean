import CrateSurface.Number.Decimal
import Mathlib.Algebra.Group.Nat.Defs
import Mathlib.Data.List.Induction

namespace CrateSurface

/-- What is asked of every character of a list is decided on the list, not on all characters. -/
theorem forall_mem_of_all {P : Char → Prop} [DecidablePred P] {cs : List Char}
    (held : cs.all (fun c => decide (P c)) = true) : ∀ c ∈ cs, P c :=
  fun c member => of_decide_eq_true (List.all_eq_true.mp held c member)

theorem digitChar_isDigit {d : Nat} (small : d < 10) : (digitChar d).isDigit = true := by
  have all : ∀ d < 10, (digitChar d).isDigit = true := by decide
  exact all d small

theorem digitChar_value {d : Nat} (small : d < 10) : (digitChar d).toNat - '0'.toNat = d := by
  have all : ∀ d < 10, (digitChar d).toNat - '0'.toNat = d := by decide
  exact all d small

/-- What holds of one digit, and of a text with one digit more behind it, holds of all decimal
texts. -/
theorem digitsWithin_induction {P : Nat → List Char → Prop}
    (single : ∀ d, d < 10 → P d [digitChar d])
    (more : ∀ n digits d, 0 < n → d < 10 → P n digits →
      P (10 * n + d) (digits ++ [digitChar d])) {width : Nat} :
    ∀ {n : Nat}, n < 10 ^ width → 0 < width → P n (digitsWithin width n) := by
  induction width with
  | zero => intro n _ positive; omega
  | succ width ih =>
    intro n fits _
    rw [digitsWithin]
    split
    · rename_i small
      exact single n small
    · rename_i large
      have leading : n / 10 < 10 ^ width := by
        rw [Nat.pow_succ] at fits
        omega
      have room : 0 < width := by
        cases width with
        | zero => simp at leading; omega
        | succ width => omega
      have value : 10 * (n / 10) + n % 10 = n := by omega
      have digits := more (n / 10) _ (n % 10) (by omega) (by omega) (ih leading room)
      rwa [value] at digits

/-- The text of a number grows digit by digit from its leading one. -/
theorem natText_induction {P : Nat → List Char → Prop}
    (single : ∀ d, d < 10 → P d [digitChar d])
    (more : ∀ n digits d, 0 < n → d < 10 → P n digits →
      P (10 * n + d) (digits ++ [digitChar d])) (n : Nat) : P n (natText n) :=
  digitsWithin_induction single more
    (Nat.lt_trans (Nat.lt_succ_self n) (Nat.lt_pow_self (by decide))) (Nat.succ_pos n)

theorem asciiNumber_append_singleton (digits : List Char) (c : Char) :
    asciiNumber (digits ++ [c]) = 10 * asciiNumber digits + (c.toNat - '0'.toNat) := by
  simp only [asciiNumber, List.foldl_append, List.foldl_cons, List.foldl_nil]

/-- A natural number is read back from its digits. -/
theorem asciiNumber_natText (n : Nat) : asciiNumber (natText n) = n := by
  refine natText_induction (P := fun n digits => asciiNumber digits = n) ?_ ?_ n
  · intro d small
    simp only [asciiNumber, List.foldl_cons, List.foldl_nil, digitChar_value small]
    omega
  · intro n digits d _ small value
    rw [asciiNumber_append_singleton, value, digitChar_value small]

theorem natText_isDigit (n : Nat) : ∀ c ∈ natText n, c.isDigit = true := by
  refine natText_induction (P := fun _ digits => ∀ c ∈ digits, c.isDigit = true) ?_ ?_ n
  · intro d small c member
    rw [List.mem_singleton.mp member]
    exact digitChar_isDigit small
  · intro n digits d _ small all c member
    rcases List.mem_append.mp member with early | last
    · exact all c early
    · rw [List.mem_singleton.mp last]
      exact digitChar_isDigit small

/-- A leading zero stands alone. -/
theorem natText_head (n : Nat) :
    ∃ first rest, natText n = first :: rest ∧ (first = '0' → rest = []) := by
  have shape : ∃ first rest, natText n = first :: rest ∧ (first = '0' → rest = [] ∧ n = 0) := by
    refine natText_induction
      (P := fun n digits => ∃ first rest, digits = first :: rest ∧ (first = '0' → rest = [] ∧ n = 0))
      ?_ ?_ n
    · intro d small
      refine ⟨digitChar d, [], rfl, ?_⟩
      intro zero
      have value := digitChar_value small
      rw [zero] at value
      exact ⟨rfl, value.symm⟩
    · rintro n digits d positive small ⟨first, rest, rfl, alone⟩
      refine ⟨first, rest ++ [digitChar d], rfl, ?_⟩
      intro zero
      have := (alone zero).2
      omega
  obtain ⟨first, rest, same, alone⟩ := shape
  exact ⟨first, rest, same, fun zero => (alone zero).1⟩

theorem natText_length_le {n : Nat} : ∀ {count : Nat}, 0 < count → n < 10 ^ count →
    (natText n).length ≤ count := by
  refine natText_induction
    (P := fun n digits => ∀ {count : Nat}, 0 < count → n < 10 ^ count → digits.length ≤ count)
    ?_ ?_ n
  · intro d small count positive _
    exact positive
  · intro n digits d positive small bound count room fits
    cases count with
    | zero => omega
    | succ count =>
      rw [Nat.pow_succ] at fits
      have below : n < 10 ^ count := by omega
      have left : 0 < count := by
        cases count with
        | zero => simp at below; omega
        | succ count => omega
      rw [List.length_append]
      exact Nat.succ_le_succ (bound left below)

/-- A number is bounded by the count of its digits. -/
theorem asciiNumber_lt_pow (digits : List Char) (all : ∀ c ∈ digits, c.isDigit = true) :
    asciiNumber digits < 10 ^ digits.length := by
  induction digits using List.reverseRecOn with
  | nil => decide
  | append_singleton digits c ih =>
    have early := ih (fun c' member => all c' (List.mem_append_left _ member))
    have bounds := Char.isDigit_iff_toNat.mp (all c (List.mem_append_right _ (List.mem_singleton_self c)))
    have nine : '9'.toNat - '0'.toNat = 9 := by decide
    rw [asciiNumber_append_singleton, List.length_append, List.length_singleton, Nat.pow_succ]
    omega

end CrateSurface
