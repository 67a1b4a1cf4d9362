import TemplateAudit.Proofs.Text.LowerCaseLength

namespace TemplateAudit

/-- Only ASCII has a simple lower case in ASCII. -/
theorem toNat_lt_of_toLower {c : Char} (h : c.toLower.toNat < 0x80) : c.toNat < 0x80 := by
  delta Char.toLower at h
  split at h
  · next hupper =>
    have hbound : c.val.toNat ≤ 'Z'.val.toNat := UInt32.le_iff_toNat_le.mp hupper.2
    have hlast : 'Z'.val.toNat = 0x5A := rfl
    have hvalue : c.toNat = c.val.toNat := rfl
    omega
  · exact h

/-- Lower case goes through ASCII letter by letter, whatever follows. -/
theorem lowerFrom_append_ascii {text : Text} (h : ∀ c ∈ text, c.toNat < 0x80) (before rest : Text) :
    lowerFrom before (text ++ rest) = text.map Char.toLower ++ lowerFrom (text.reverse ++ before) rest := by
  induction text generalizing before with
  | nil => rfl
  | cons c text ih =>
    obtain ⟨hc, htext⟩ := List.forall_mem_cons.mp h
    have hsigma : c.toNat ≠ 0x3A3 := by omega
    simp [lowerFrom, lowerChar, hc, hsigma, ih htext]

/-- The lower case of a character outside ASCII is one character outside ASCII, apart from two
    characters. -/
theorem lowerChar_cases {c : Char} (hc : 0x80 ≤ c.toNat) :
    lowerChar c = ['k'] ∨ lowerChar c = ['i', combiningDot] ∨ ∃ d, lowerChar c = [d] ∧ 0x80 ≤ d.toNat := by
  by_cases hkelvin : c.toNat = kelvinCode
  · exact .inl (lowerChar_kelvin hkelvin)
  · by_cases hdotted : c = dottedCapitalI
    · subst hdotted
      exact .inr (.inl (by decide))
    · have hlength := length_lowerChar c
      rw [if_neg hdotted, Nat.add_zero] at hlength
      obtain ⟨d, hd⟩ := List.length_eq_one_iff.mp hlength
      obtain ⟨e, he, hascii⟩ := lowerChar_not_ascii hc hkelvin
      rw [hd, List.mem_singleton] at he
      exact .inr (.inr ⟨d, hd, he ▸ hascii⟩)

/-- If the lower case of a text starts with plain ASCII that does not end in `i`, the text starts with the
    same letters in any case. -/
theorem map_toLower_take_of_prefix {keyword : Text} (hplain : ∀ c ∈ keyword, isPlainAscii c = true)
    (hlast : keyword.getLast? ≠ some 'i') {before text : Text} (h : keyword <+: lowerFrom before text) :
    (text.take keyword.length).map Char.toLower = keyword := by
  induction keyword generalizing before text with
  | nil => rfl
  | cons k keyword ih =>
    obtain ⟨hk, hkeyword⟩ := List.forall_mem_cons.mp hplain
    have hascii := toNat_lt_of_isPlainAscii hk
    have hrest : keyword.getLast? ≠ some 'i' := by
      cases keyword with
      | nil => simp
      | cons d keyword => rwa [List.getLast?_cons_cons] at hlast
    cases text with
    | nil => exact absurd h (by simp [lowerFrom])
    | cons c rest =>
      rw [lowerFrom] at h
      split at h
      · -- A final sigma is not ASCII.
        obtain ⟨rfl, _⟩ := List.cons_prefix_cons.mp h
        exact absurd hk (by decide)
      · by_cases hc : c.toNat < 0x80
        · rw [lowerChar, if_pos hc] at h
          obtain ⟨rfl, hlater⟩ := List.cons_prefix_cons.mp h
          rw [List.length_cons, List.take_succ_cons, List.map_cons, ih hkeyword hrest hlater]
        · obtain himage | himage | ⟨d, himage, hd⟩ := lowerChar_cases (Nat.le_of_not_lt hc)
          · rw [himage] at h
            obtain ⟨rfl, _⟩ := List.cons_prefix_cons.mp h
            exact absurd hk (by decide)
          · -- Behind the `i` of a dotted capital stands a dot, which no keyword has.
            rw [himage] at h
            obtain ⟨rfl, hlater⟩ := List.cons_prefix_cons.mp h
            cases keyword with
            | nil => exact absurd rfl hlast
            | cons e keyword =>
              obtain ⟨rfl, _⟩ := List.cons_prefix_cons.mp hlater
              exact absurd (hkeyword combiningDot List.mem_cons_self) (by decide)
          · rw [himage] at h
            obtain ⟨rfl, _⟩ := List.cons_prefix_cons.mp h
            omega

end TemplateAudit
