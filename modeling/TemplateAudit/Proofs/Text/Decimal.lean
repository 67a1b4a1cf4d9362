import Mathlib.Algebra.Group.Nat.Defs
import TemplateAudit.Text.Basic

namespace TemplateAudit.Text

/-- What holds of the ten digits holds of every digit. -/
theorem of_isDigit {motive : Char → Prop} (h : ∀ n < 10, motive (Char.ofNat (48 + n))) {c : Char}
    (hc : c.isDigit = true) : motive c := by
  have hbounds : 48 ≤ c.toNat ∧ c.toNat ≤ 57 := by
    simpa [Char.isDigit, UInt32.le_iff_toNat_le] using hc
  have hdigit := h (c.toNat - 48) (by omega)
  rwa [Nat.add_sub_cancel' hbounds.1, Char.ofNat_toNat] at hdigit

theorem isDigit_of_mem_ofNat {n : Nat} {c : Char} (h : c ∈ ofNat n) : c.isDigit = true :=
  Nat.isDigit_of_mem_toDigits (by decide) (by decide) h

theorem not_mem_ofNat {c : Char} (hc : c.isDigit = false) (n : Nat) : c ∉ ofNat n := by
  intro hmem
  rw [isDigit_of_mem_ofNat hmem] at hc
  cases hc

theorem ofNat_ne_nil (n : Nat) : ofNat n ≠ [] := Nat.toDigits_ne_nil

theorem digitsToNat_ofNat (n : Nat) : digitsToNat (ofNat n) = n :=
  Nat.ofDigitChars_toDigits (by decide) (by decide)

theorem ofNat_inj {m n : Nat} : ofNat m = ofNat n ↔ m = n := by
  refine ⟨fun h => ?_, fun h => by rw [h]⟩
  have hread := congrArg digitsToNat h
  rwa [digitsToNat_ofNat, digitsToNat_ofNat] at hread

/-- Digits spell a number that has no more of them. -/
theorem digitsToNat_lt {digits : Text} (h : ∀ c ∈ digits, c.isDigit = true) :
    digitsToNat digits < 10 ^ digits.length := by
  have hvalue : ∀ c : Char, c.isDigit = true → c.toNat - '0'.toNat < 10 := fun c hc =>
    of_isDigit (motive := fun c => c.toNat - '0'.toNat < 10) (by decide) hc
  -- The digits read so far count ten times more for each digit that follows.
  have hfold : ∀ start : Nat, digits.foldl (fun n c => 10 * n + (c.toNat - '0'.toNat)) start <
      (start + 1) * 10 ^ digits.length := by
    induction digits with
    | nil => simp
    | cons c digits ih =>
      intro start
      obtain ⟨hc, hdigits⟩ := List.forall_mem_cons.mp h
      have hlater := ih hdigits (10 * start + (c.toNat - '0'.toNat))
      have hstep : 10 * start + (c.toNat - '0'.toNat) + 1 ≤ (start + 1) * 10 := by
        have hdigit := hvalue c hc
        omega
      rw [List.foldl_cons, List.length_cons]
      calc _ < _ := hlater
        _ ≤ (start + 1) * 10 * 10 ^ digits.length := Nat.mul_le_mul_right _ hstep
        _ = (start + 1) * 10 ^ (digits.length + 1) := by rw [Nat.pow_succ', Nat.mul_assoc]
  simpa [digitsToNat] using hfold 0

/-- A numeral of several digits does not start with a zero. -/
theorem head?_ofNat_ne_zero {n : Nat} (h : 10 ≤ n) : (ofNat n).head? ≠ some '0' := by
  induction n using Nat.strongRecOn with
  | ind n ih =>
    have hsplit : ofNat n = ofNat (n / 10) ++ [(n % 10).digitChar] :=
      Nat.toDigits_of_base_le (by decide) h
    obtain ⟨c, rest, hdigits⟩ := List.exists_cons_of_ne_nil (ofNat_ne_nil (n / 10))
    have hhead : (ofNat n).head? = (ofNat (n / 10)).head? := by
      rw [hsplit, hdigits, List.cons_append, List.head?_cons, List.head?_cons]
    rw [hhead]
    by_cases hlong : 10 ≤ n / 10
    · exact ih (n / 10) (by omega) hlong
    · have hdigit : ofNat (n / 10) = [(n / 10).digitChar] := Nat.toDigits_of_lt_base (by omega)
      have hcases : ∀ d < 10, d ≠ 0 → d.digitChar ≠ '0' := by decide
      rw [hdigit, List.head?_cons]
      intro hzero
      exact hcases (n / 10) (by omega) (by omega) (Option.some.inj hzero)

theorem length_ofNat_eq_one {n : Nat} (h : n < 10) : (ofNat n).length = 1 := by
  rw [ofNat, Nat.toDigits_of_lt_base h, List.length_singleton]

end TemplateAudit.Text
