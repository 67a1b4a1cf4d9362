import TemplateAudit.Proofs.Text.LowerCasePrefix

namespace TemplateAudit

/-- The Kelvin sign, which looks like a capital `K` and has the same lower case. -/
def kelvinSign : Char := Char.ofNat kelvinCode

namespace Text

/-- The text with a `k` in place of each Kelvin sign. -/
def readKelvin (text : Text) : Text := text.map fun c => if c = kelvinSign then 'k' else c

/-- The texts differ at most in the case of ASCII letters. -/
def AsciiCaseEq (text other : Text) : Prop := text.map Char.toLower = other.map Char.toLower

/-- The first text, with a `k` in place of each Kelvin sign, differs from the other one at most in the case of ASCII
    letters. -/
def KelvinCaseEq (text other : Text) : Prop := text.readKelvin.AsciiCaseEq other

instance (text other : Text) : Decidable (text.AsciiCaseEq other) := inferInstanceAs (Decidable (_ = _))

instance (text other : Text) : Decidable (text.KelvinCaseEq other) := inferInstanceAs (Decidable (AsciiCaseEq _ _))

theorem readKelvin_of_not_mem {text : Text} (h : kelvinSign ∉ text) : text.readKelvin = text := by
  rw [readKelvin, List.map_congr_left (g := id), List.map_id]
  intro c hc
  refine if_neg ?_
  rintro rfl
  exact h hc

end Text

/-- Along ASCII and Kelvin signs, lower case is that of ASCII. -/
theorem lowerFrom_ascii_kelvin {text : Text} (h : ∀ c ∈ text, c.toNat < 0x80 ∨ c = kelvinSign) (before : Text) :
    lowerFrom before text = text.readKelvin.map Char.toLower := by
  induction text generalizing before with
  | nil => rfl
  | cons c rest ih =>
    obtain ⟨hc, hrest⟩ := List.forall_mem_cons.mp h
    have hsigma : c.toNat ≠ 0x3A3 := by
      obtain hc | rfl := hc
      · omega
      · decide
    have himage : lowerChar c = [(if c = kelvinSign then 'k' else c).toLower] := by
      obtain hascii | rfl := hc
      · have hkelvin : c ≠ kelvinSign := by
          rintro rfl
          exact absurd hascii (by decide)
        rw [lowerChar, if_pos hascii, if_neg hkelvin]
      · decide
    rw [lowerFrom, ih hrest, himage]
    simp [hsigma, Text.readKelvin]

/-- A text whose lower case is ASCII holds nothing but ASCII and Kelvin signs. -/
theorem ascii_kelvin_of_lowerFrom (before : Text) {text : Text}
    (h : ∀ d ∈ lowerFrom before text, d.toNat < 0x80) : ∀ c ∈ text, c.toNat < 0x80 ∨ c = kelvinSign := by
  induction text generalizing before with
  | nil => exact fun c hc => absurd hc List.not_mem_nil
  | cons c rest ih =>
    have hlater : ∀ d ∈ lowerFrom (c :: before) rest, d.toNat < 0x80 := fun d hd => h d (List.mem_append_right _ hd)
    refine List.forall_mem_cons.mpr ⟨?_, ih _ hlater⟩
    by_cases hkelvin : c.toNat = kelvinCode
    · exact .inr (by rw [kelvinSign, ← hkelvin, Char.ofNat_toNat])
    · refine .inl (Nat.lt_of_not_le fun hc => ?_)
      rw [lowerFrom] at h
      split at h
      · exact absurd (h (Char.ofNat 0x3C2) (by simp)) (by decide)
      · obtain ⟨d, hmem, hd⟩ := lowerChar_not_ascii hc hkelvin
        have hascii := h d (List.mem_append_left _ hmem)
        omega

namespace Text

theorem map_toLower_ascii {text : Text} (h : ∀ c ∈ text, c.toNat < 0x80) :
    ∀ d ∈ text.map Char.toLower, d.toNat < 0x80 := by
  have hall : ∀ n < 0x80, (Char.ofNat n).toLower.toNat < 0x80 := by decide
  intro d hd
  obtain ⟨c, hc, rfl⟩ := List.mem_map.mp hd
  exact of_ascii hall c (h c hc)

/-- What differs from ASCII only in letter case is ASCII. -/
theorem AsciiCaseEq.ascii {text other : Text} (h : text.AsciiCaseEq other) (hother : ∀ c ∈ other, c.toNat < 0x80) :
    ∀ c ∈ text, c.toNat < 0x80 := by
  intro c hc
  have himage := map_toLower_ascii hother c.toLower (h ▸ List.mem_map_of_mem hc)
  exact toNat_lt_of_toLower himage

/-- A text has the same lower case as an ASCII text exactly if they differ at most in letter case and in Kelvin
    signs. -/
theorem lower_eq_lower_iff {text other : Text} (hother : ∀ c ∈ other, c.toNat < 0x80) :
    text.lower = other.lower ↔ text.KelvinCaseEq other := by
  have hlower : other.lower = other.map Char.toLower := lowerFrom_ascii hother []
  rw [KelvinCaseEq, AsciiCaseEq, ← hlower]
  constructor
  · intro h
    rw [← lowerFrom_ascii_kelvin (ascii_kelvin_of_lowerFrom [] ?_) []]
    · exact h
    · rw [← Text.lower, h, hlower]
      exact map_toLower_ascii hother
  · intro h
    rw [← h]
    refine lowerFrom_ascii_kelvin (fun c hc => ?_) []
    by_cases hkelvin : c = kelvinSign
    · exact .inr hkelvin
    · have hread : c ∈ text.readKelvin := List.mem_map.mpr ⟨c, hc, if_neg hkelvin⟩
      have hsame : text.readKelvin.AsciiCaseEq other := h.trans hlower
      exact .inl (hsame.ascii hother c hread)

/-- Letter case alone makes the difference exactly if there is no Kelvin sign. -/
theorem asciiCaseEq_iff {text other : Text} (hother : ∀ c ∈ other, c.toNat < 0x80) :
    text.AsciiCaseEq other ↔ text.KelvinCaseEq other ∧ kelvinSign ∉ text := by
  constructor
  · intro h
    have hkelvin : kelvinSign ∉ text := fun hmem => absurd (h.ascii hother _ hmem) (by decide)
    rw [KelvinCaseEq, readKelvin_of_not_mem hkelvin]
    exact ⟨h, hkelvin⟩
  · rintro ⟨h, hkelvin⟩
    rwa [KelvinCaseEq, readKelvin_of_not_mem hkelvin] at h

end Text

end TemplateAudit
