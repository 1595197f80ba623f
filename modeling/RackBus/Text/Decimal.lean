/-!
# Decimal numbers

Natural numbers as text: no sign, no leading zero, no grouping.

* `Decimal.digits` writes a number, `Decimal.value` reads a run of digits back.
* `value_digits` says that nothing is lost, `isDigit_of_mem_digits` and `head_digits` that the
  written form is a plain number: digits only, and a leading zero for zero alone.
-/

set_option autoImplicit false

namespace RackBus
namespace Decimal

/-- The character of a digit below ten. -/
def digit (d : Nat) : Char := Char.ofNat (48 + d)

/-- The digits of `n`, most significant first. -/
def digits (n : Nat) : List Char :=
  if n < 10 then [digit n] else digits (n / 10) ++ [digit (n % 10)]
termination_by n
decreasing_by omega

/-- The number a run of digits stands for. -/
def value (cs : List Char) : Nat := cs.foldl (fun n c ↦ 10 * n + (c.toNat - 48)) 0

/-- A number as text. -/
def text (n : Nat) : String := String.ofList (digits n)

/-- One of the ten digits. -/
def isDigit (c : Char) : Bool := 48 ≤ c.toNat && c.toNat ≤ 57

/-! ## Reading what was written -/

theorem toNat_digit {d : Nat} (h : d < 10) : (digit d).toNat = 48 + d := by
  have all : ∀ d : Fin 10, (digit d).toNat = 48 + d := by decide
  exact all ⟨d, h⟩

theorem isDigit_digit {d : Nat} (h : d < 10) : isDigit (digit d) = true := by
  simp only [isDigit, toNat_digit h, Bool.and_eq_true, decide_eq_true_eq]
  omega

theorem value_append_digit (cs : List Char) {d : Nat} (h : d < 10) :
    value (cs ++ [digit d]) = 10 * value cs + d := by
  simp only [value, List.foldl_append, List.foldl_cons, List.foldl_nil, toNat_digit h]
  omega

/-- **Reading back** what was written gives the number. -/
theorem value_digits (n : Nat) : value (digits n) = n := by
  fun_induction digits n with
  | case1 n h => simpa [value] using value_append_digit [] h
  | case2 n h ih =>
    rw [value_append_digit _ (Nat.mod_lt _ (by omega)), ih]
    omega

theorem isDigit_of_mem_digits {n : Nat} {c : Char} (h : c ∈ digits n) : isDigit c = true := by
  fun_induction digits n with
  | case1 n hn =>
    rw [List.mem_singleton] at h
    exact h ▸ isDigit_digit hn
  | case2 n _ ih =>
    rcases List.mem_append.1 h with h | h
    · exact ih h
    · rw [List.mem_singleton] at h
      exact h ▸ isDigit_digit (Nat.mod_lt _ (by omega))

theorem digits_ne_nil (n : Nat) : digits n ≠ [] := by
  fun_induction digits n with
  | case1 n h => simp
  | case2 n h ih => simp

/-- Only zero starts with a zero, and it is that one digit. -/
theorem head_digits (n : Nat) : (digits n).head? = some '0' → digits n = ['0'] := by
  fun_induction digits n with
  | case1 n h =>
    have all : ∀ d : Fin 10, [digit d].head? = some '0' → [digit d] = ['0'] := by decide
    exact all ⟨n, h⟩
  | case2 n h ih =>
    intro hz
    obtain ⟨c, cs, hc⟩ := List.exists_cons_of_ne_nil (digits_ne_nil (n / 10))
    rw [hc] at hz ih
    have hq := congrArg value (ih hz)
    rw [← hc, value_digits] at hq
    have : value ['0'] = 0 := by decide
    omega

end Decimal
end RackBus
