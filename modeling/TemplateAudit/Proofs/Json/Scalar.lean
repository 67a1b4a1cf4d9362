import Mathlib
import TemplateAudit.Json.Read
import TemplateAudit.Json.Write
import TemplateAudit.Proofs.Text.Decimal
import TemplateAudit.Proofs.Text.Run

namespace TemplateAudit.Json

/-- What stands between the quotes of a JSON string. -/
def written (text : Text) : Text := text.flatMap escapeChar

theorem quote_eq (text : Text) : quote text = '"' :: (written text ++ ['"']) := rfl

theorem readString?_simple {c d : Char} (h : simpleEscape? c = some d) (rest : Text) :
    readString? ('\\' :: c :: rest) = (readString? rest).map fun (text, after) => (d :: text, after) := by
  have hne : c ≠ 'u' := by
    rintro rfl
    cases h
  rw [readString?.eq_5 c rest (fun _ _ _ _ _ _ _ _ _ hc _ => hne hc) fun _ _ _ _ _ hc _ => hne hc, h]

/-- A numeric escape below the surrogates stands for itself, whatever follows. -/
theorem readString?_unit {a b c d : Char} {unit : Nat} (hunit : hex4? a b c d = some unit)
    (hlow : unit < 0xD800) (rest : Text) :
    readString? ('\\' :: 'u' :: a :: b :: c :: d :: rest) =
      (readString? rest).map fun (text, after) => (Char.ofNat unit :: text, after) := by
  by_cases hpair : ∃ e f g h later, rest = '\\' :: 'u' :: e :: f :: g :: h :: later
  · obtain ⟨e, f, g, h, later, rfl⟩ := hpair
    rw [readString?.eq_3, hunit]
    simp only [Bool.and_eq_true, decide_eq_true_eq]
    rw [if_neg (by omega), if_neg (by omega)]
  · rw [readString?.eq_4 a b c d rest fun e f g h later heq => hpair ⟨e, f, g, h, later, heq⟩, hunit]
    simp only [Bool.and_eq_true, decide_eq_true_eq]
    rw [if_neg (by omega)]

/-- A character that needs no escape is read as it is. -/
theorem readString?_plain {c : Char} (hquote : c ≠ '"') (hslash : c ≠ '\\') (hcontrol : 0x20 ≤ c.toNat)
    (rest : Text) :
    readString? (c :: rest) = (readString? rest).map fun (text, after) => (c :: text, after) := by
  rw [readString?.eq_6 c rest hquote (fun _ _ _ _ _ _ _ _ _ hc _ => hslash hc)
    (fun _ _ _ _ _ hc _ => hslash hc) fun _ _ hc _ => hslash hc, if_neg]
  simp only [Bool.or_eq_true, decide_eq_true_eq, beq_iff_eq, not_or]
  exact ⟨by omega, hslash⟩

theorem hex_control : ∀ n < 0x20,
    Text.hex 4 n = ['0', '0', Nat.digitChar (n / 16), Nat.digitChar (n % 16)] ∧
      hex4? '0' '0' (Nat.digitChar (n / 16)) (Nat.digitChar (n % 16)) = some n := by
  decide

/-- A character is read from what is written for it. -/
theorem readString?_escapeChar (c : Char) (rest : Text) :
    readString? (escapeChar c ++ rest) =
      (readString? rest).map fun (text, after) => (c :: text, after) := by
  have hchar : ∀ {n : Nat}, c.toNat = n → c = Char.ofNat n := fun h => by rw [← h, Char.ofNat_toNat]
  unfold escapeChar
  by_cases hquote : c = '"'
  · rw [if_pos hquote]
    exact readString?_simple (by rw [hquote]; rfl) rest
  rw [if_neg hquote]
  by_cases hslash : c = '\\'
  · rw [if_pos hslash]
    exact readString?_simple (by rw [hslash]; rfl) rest
  rw [if_neg hslash]
  by_cases hback : c.toNat = 0x8
  · rw [if_pos hback]
    exact readString?_simple (by rw [hchar hback]; rfl) rest
  rw [if_neg hback]
  by_cases hfeed : c.toNat = 0xC
  · rw [if_pos hfeed]
    exact readString?_simple (by rw [hchar hfeed]; rfl) rest
  rw [if_neg hfeed]
  by_cases hline : c = '\n'
  · rw [if_pos hline]
    exact readString?_simple (by rw [hline]; rfl) rest
  rw [if_neg hline]
  by_cases hreturn : c = '\r'
  · rw [if_pos hreturn]
    exact readString?_simple (by rw [hreturn]; rfl) rest
  rw [if_neg hreturn]
  by_cases htab : c = '\t'
  · rw [if_pos htab]
    exact readString?_simple (by rw [htab]; rfl) rest
  rw [if_neg htab]
  by_cases hcontrol : c.toNat < 0x20
  · obtain ⟨hhex, hunit⟩ := hex_control c.toNat hcontrol
    have hread := readString?_unit hunit (by omega) rest
    rw [Char.ofNat_toNat] at hread
    rw [if_pos hcontrol, hhex]
    exact hread
  · rw [if_neg hcontrol]
    exact readString?_plain hquote hslash (Nat.le_of_not_lt hcontrol) rest

/-- A written text is read back up to its closing quote. -/
theorem readString?_written (text rest : Text) :
    readString? (written text ++ '"' :: rest) = some (text, rest) := by
  induction text with
  | nil => exact readString?.eq_2 rest
  | cons c text ih =>
    rw [written, List.flatMap_cons, List.append_assoc, readString?_escapeChar]
    rw [written] at ih
    rw [ih]
    rfl

/-- No two texts are written alike. -/
theorem written_inj {text text' : Text} : written text = written text' ↔ text = text' := by
  refine ⟨fun h => ?_, fun h => by rw [h]⟩
  have hread := readString?_written text []
  rw [h, readString?_written] at hread
  exact (Prod.mk.inj (Option.some.inj hread)).1.symm

/-- The text does not go on with a character that could belong to a numeral before it. -/
def EndsNumeral (rest : Text) : Prop :=
  ∀ c ∈ rest.head?, c.isDigit = false ∧ c ≠ '.' ∧ c ≠ 'e' ∧ c ≠ 'E'

theorem endsNumeral_cons {c : Char}
    (h : c.isDigit = false ∧ c ≠ '.' ∧ c ≠ 'e' ∧ c ≠ 'E') (rest : Text) : EndsNumeral (c :: rest) := by
  intro d hd
  obtain rfl := Option.some.inj hd
  exact h

/-- The digits of a number are read back as far as they go. -/
theorem readDigits?_ofNat (n : Nat) {rest : Text} (hrest : EndsNumeral rest) :
    readDigits? (Text.ofNat n ++ rest) = some (Text.ofNat n, rest) := by
  have hrun : Text.IsLongestRun Char.isDigit (Text.ofNat n) rest :=
    ⟨fun c => Text.isDigit_of_mem_ofNat, fun c hc => (hrest c hc).1⟩
  rw [readDigits?, hrun.takeWhile_eq, hrun.dropWhile_eq]
  obtain ⟨c, digits, hdigits⟩ := List.exists_cons_of_ne_nil (Text.ofNat_ne_nil n)
  rw [hdigits]

theorem readFraction?_of_endsNumeral {rest : Text} (h : EndsNumeral rest) :
    readFraction? rest = some (none, rest) := by
  unfold readFraction?
  split
  · exact absurd rfl (h '.' rfl).2.1
  · rfl

theorem readExponent?_of_endsNumeral {rest : Text} (h : EndsNumeral rest) :
    readExponent? rest = some (none, rest) := by
  cases rest with
  | nil => rfl
  | cons c rest =>
    obtain ⟨_, _, hlower, hupper⟩ := h c rfl
    simp [readExponent?, hlower, hupper]

/-- The digits of a number are read back as that number. -/
theorem readMagnitude?_ofNat (negative : Bool) {n : Nat} (hn : Numeral.isTooLong n = false) {rest : Text}
    (hrest : EndsNumeral rest) :
    readMagnitude? negative (Text.ofNat n ++ rest) =
      some (.int (if negative then -↑n else ↑n), rest) := by
  have hzero : ((Text.ofNat n).head? == some '0' && decide (1 < (Text.ofNat n).length)) = false := by
    simp only [Bool.and_eq_false_iff, beq_eq_false_iff_ne, decide_eq_false_iff_not]
    by_cases hshort : n < 10
    · exact .inr (by rw [Text.length_ofNat_eq_one hshort]; omega)
    · exact .inl (Text.head?_ofNat_ne_zero (Nat.le_of_not_lt hshort))
  have hlength : ¬ Numeral.maxDigits < (Text.ofNat n).length := by
    rw [Numeral.isTooLong, decide_eq_false_iff_not, Nat.not_le, Int.natAbs_natCast, Nat.pow_eq,
      ← Nat.length_toDigits_le_iff (by decide) (by decide)] at hn
    exact Nat.not_lt.mpr hn
  rw [readMagnitude?, readDigits?_ofNat n hrest]
  simp only [hzero, Bool.false_eq_true, if_false, if_neg hlength, readFraction?_of_endsNumeral hrest,
    readExponent?_of_endsNumeral hrest, Text.digitsToNat_ofNat]

theorem exists_digit_ofNat (n : Nat) : ∃ c digits, Text.ofNat n = c :: digits ∧ c.isDigit = true := by
  obtain ⟨c, digits, hdigits⟩ := List.exists_cons_of_ne_nil (Text.ofNat_ne_nil n)
  exact ⟨c, digits, hdigits, Text.isDigit_of_mem_ofNat (hdigits ▸ List.mem_cons_self)⟩

/-- What holds of digits and of the minus sign holds of the first character of an integer. -/
theorem exists_head_ofInt {motive : Char → Prop} (hdigits : ∀ n < 10, motive (Char.ofNat (48 + n)))
    (hminus : motive '-') (n : Int) : ∃ c tail, Text.ofInt n = c :: tail ∧ motive c := by
  cases n with
  | ofNat m =>
    obtain ⟨c, digits, htext, hdigit⟩ := exists_digit_ofNat m
    exact ⟨c, digits, htext, Text.of_isDigit hdigits hdigit⟩
  | negSucc m => exact ⟨'-', _, rfl, hminus⟩

/-- A number is read back from its numeral. -/
theorem readNumber?_ofInt {n : Int} (hn : Numeral.isTooLong n = false) {rest : Text}
    (hrest : EndsNumeral rest) : readNumber? (Text.ofInt n ++ rest) = some (.int n, rest) := by
  cases n with
  | ofNat m =>
    have hread := readMagnitude?_ofNat false hn hrest
    obtain ⟨c, digits, hdigits, hdigit⟩ := exists_digit_ofNat m
    rw [Text.ofInt]
    rw [hdigits, List.cons_append] at hread ⊢
    unfold readNumber?
    split
    · next heq =>
      rw [(List.cons.inj heq).1] at hdigit
      cases hdigit
    · exact hread
  | negSucc m =>
    have hread := readMagnitude?_ofNat true hn hrest
    obtain ⟨c, digits, hdigits, hdigit⟩ := exists_digit_ofNat (m + 1)
    have hword : afterWord? "Infinity" (Text.ofNat (m + 1) ++ rest) = none := by
      have hne : 'I' ≠ c := by
        rintro rfl
        cases hdigit
      simp [afterWord?, hdigits, List.isPrefixOf?, hne]
    rw [Text.ofInt, List.cons_append, readNumber?, hword]
    exact hread

end TemplateAudit.Json
