import Mathlib.Data.Nat.Digits.Defs
import RelayGateway.Text.Digit

/-! # Decimal digits

The digits of a number spell it, with or without zeros before them, and no shorter run of digits does.
-/
namespace RelayGateway.Text

variable {c : Char} {ds rest : List Char} {n : Nat}

theorem isDigit_of_mem_toDigits (h : c ∈ Nat.toDigits 10 n) : isDigit c = true :=
  isDigit_of_isDigit (Nat.isDigit_of_mem_toDigits (by decide) (by decide) h)

theorem digitsValue_eq (ds : List Char) : digitsValue ds = Nat.ofDigitChars 10 ds 0 := by
  rw [Nat.ofDigitChars_eq_foldl]
  unfold digitsValue
  congr 1
  funext n c
  rw [Nat.mul_comm]
  rfl

theorem digitsValue_toDigits (n : Nat) : digitsValue (Nat.toDigits 10 n) = n := by
  rw [digitsValue_eq, Nat.ofDigitChars_ten_toDigits]

theorem digitsValue_zeros (k : Nat) (ds : List Char) :
    digitsValue (List.replicate k '0' ++ ds) = digitsValue ds := by
  rw [digitsValue_eq, digitsValue_eq, Nat.ofDigitChars_append, Nat.ofDigitChars_replicate_zero,
    Nat.mul_zero]

/-- So many digits spell less than the power of ten with so many zeros. -/
theorem digitsValue_lt (digits : ∀ c ∈ ds, isDigit c = true) : digitsValue ds < 10 ^ ds.length := by
  have hbound : ∀ n, ds.foldl (fun n c => n * 10 + (c.toNat - 48)) n < 10 ^ ds.length * (n + 1) := by
    induction ds with
    | nil => intro n; simp
    | cons c ds ih =>
      intro n
      have hc : c.toNat ≤ 57 := by
        have hdigit := digits c List.mem_cons_self
        simp only [isDigit, Char.le_def, decide_eq_true_eq] at hdigit
        exact hdigit.2
      have hrest := ih (fun c hc => digits c (List.mem_cons_of_mem _ hc)) (n * 10 + (c.toNat - 48))
      have hstep : n * 10 + (c.toNat - 48) + 1 ≤ 10 * (n + 1) := by omega
      calc
        _ < 10 ^ ds.length * (n * 10 + (c.toNat - 48) + 1) := hrest
        _ ≤ 10 ^ ds.length * (10 * (n + 1)) := Nat.mul_le_mul_left _ hstep
        _ = 10 ^ (ds.length + 1) * (n + 1) := by rw [Nat.pow_succ, Nat.mul_assoc]
  simpa [digitsValue] using hbound 0

/-- No number but zero begins with the digit zero. -/
theorem head?_toDigits_ne (h : 0 < n) : (Nat.toDigits 10 n).head? ≠ some '0' := by
  induction n using Nat.strongRecOn with
  | ind n ih =>
    by_cases hlt : n < 10
    · rw [Nat.toDigits_of_lt_base hlt]
      intro hzero
      have hchar : n.digitChar = '0' := Option.some.inj hzero
      exact absurd (Nat.digitChar_eq_zero.1 hchar) (Nat.ne_of_gt h)
    · rw [Nat.toDigits_of_base_le (by decide) (Nat.not_lt.1 hlt), List.head?_append,
        List.head?_eq_some_head Nat.toDigits_ne_nil, Option.some_or,
        ← List.head?_eq_some_head Nat.toDigits_ne_nil]
      exact ih (n / 10) (by omega) (by omega)

/-- Digits end where no digit follows. -/
theorem digits_append (digits : ∀ c ∈ ds, isDigit c = true)
    (ends : ∀ c, rest.head? = some c → isDigit c = false) :
    (ds ++ rest).takeWhile isDigit = ds ∧ (ds ++ rest).dropWhile isDigit = rest := by
  rw [List.takeWhile_append_of_pos digits, List.dropWhile_append_of_pos digits]
  cases rest with
  | nil => exact ⟨List.append_nil ds, rfl⟩
  | cons c rest =>
    have hc : ¬ isDigit c = true := Bool.eq_false_iff.1 (ends c rfl)
    rw [List.takeWhile_cons_of_neg hc, List.dropWhile_cons_of_neg hc]
    exact ⟨List.append_nil ds, rfl⟩

end RelayGateway.Text
