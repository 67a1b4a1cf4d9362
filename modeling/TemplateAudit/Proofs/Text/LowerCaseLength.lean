import TemplateAudit.Proofs.Text.LowerCase

namespace TemplateAudit

/-- The capital I with a dot above. -/
def dottedCapitalI : Char := Char.ofNat 0x130

/-- The combining dot above. -/
def combiningDot : Char := Char.ofNat 0x307

theorem eq_dottedCapitalI_iff {c : Char} : c = dottedCapitalI ↔ c.toNat = 0x130 := by
  constructor
  · rintro rfl
    rfl
  · intro h
    rw [← Char.ofNat_toNat c, h]
    rfl

/-- One character alone has a lower case of two. -/
theorem length_lowerChar (c : Char) :
    (lowerChar c).length = 1 + if c = dottedCapitalI then 1 else 0 := by
  unfold lowerChar
  simp only [eq_dottedCapitalI_iff]
  by_cases hascii : c.toNat < 0x80
  · have hdotted : ¬ c.toNat = 0x130 := by omega
    rw [if_pos hascii, if_neg hdotted]
    rfl
  · rw [if_neg hascii]
    split <;> rfl

/-- A lower case text is longer by its dotted capitals. -/
theorem length_lowerFrom (before text : Text) :
    (lowerFrom before text).length = text.length + text.count dottedCapitalI := by
  induction text generalizing before with
  | nil => rfl
  | cons c rest ih =>
    have hlater := ih (c :: before)
    rw [lowerFrom, List.length_append, hlater, List.count_cons, List.length_cons]
    split
    · next hsigma =>
      have hdotted : ¬ c = dottedCapitalI := by
        simp only [Bool.and_eq_true, decide_eq_true_eq] at hsigma
        rw [eq_dottedCapitalI_iff]
        omega
      simp only [List.length_singleton, beq_iff_eq, if_neg hdotted]
      omega
    · rw [length_lowerChar]
      simp only [beq_iff_eq]
      omega

/-- Texts of one lower case differ in length as they differ in dotted capitals. -/
theorem length_add_count_of_lower_eq {text target : Text} (h : text.lower = target.lower) :
    text.length + text.count dottedCapitalI = target.length + target.count dottedCapitalI := by
  rw [← length_lowerFrom [], ← length_lowerFrom [], ← Text.lower, ← Text.lower, h]

set_option maxRecDepth 4000 in
theorem combiningDot_not_in_lowerRuns :
    ∀ run ∈ lowerRuns, run.image + (run.last - run.first) < 0x307 ∨ 0x307 < run.image := by
  decide

/-- A combining dot in lower case comes from a dotted capital or from itself. -/
theorem eq_of_combiningDot_mem_lowerChar {c : Char} (h : combiningDot ∈ lowerChar c) :
    c = dottedCapitalI ∨ c = combiningDot := by
  unfold lowerChar at h
  split at h
  · next hascii =>
    have hall : ∀ n < 0x80, (Char.ofNat n).toLower ≠ combiningDot := by decide
    have hne : c.toLower ≠ combiningDot := of_ascii hall c hascii
    exact absurd (List.mem_singleton.mp h).symm hne
  split at h
  · next hdotted => exact .inl (eq_dottedCapitalI_iff.mpr hdotted)
  · have himage := List.mem_singleton.mp h
    obtain hsame | ⟨run, hrun, hfirst, hlast, hcode⟩ := CaseRun.apply_cases lowerRuns c.toNat
    · rw [hsame, Char.ofNat_toNat] at himage
      exact .inr himage.symm
    · have hvalue := congrArg Char.toNat himage
      have htable := combiningDot_not_in_lowerRuns run hrun
      rw [hcode, show combiningDot.toNat = 0x307 from rfl] at hvalue
      by_cases hvalid : (run.image + (c.toNat - run.first)).isValidChar
      · rw [Char.ofNat, dif_pos hvalid] at hvalue
        change 0x307 = run.image + (c.toNat - run.first) at hvalue
        omega
      · rw [Char.ofNat, dif_neg hvalid] at hvalue
        exact absurd hvalue (by decide)

/-- A combining dot in lower case comes from one in the text or from a dotted capital. -/
theorem mem_of_combiningDot_mem_lowerFrom {before text : Text} (h : combiningDot ∈ lowerFrom before text) :
    dottedCapitalI ∈ text ∨ combiningDot ∈ text := by
  induction text generalizing before with
  | nil => simp [lowerFrom] at h
  | cons c rest ih =>
    rw [lowerFrom, List.mem_append] at h
    obtain hhere | hlater := h
    · split at hhere
      · exact absurd hhere (by decide)
      · obtain rfl | rfl := eq_of_combiningDot_mem_lowerChar hhere
        · exact .inl List.mem_cons_self
        · exact .inr List.mem_cons_self
    · obtain hmem | hmem := ih hlater
      · exact .inl (List.mem_cons_of_mem c hmem)
      · exact .inr (List.mem_cons_of_mem c hmem)

/-- A dotted capital leaves a combining dot in lower case. -/
theorem combiningDot_mem_lowerFrom {text : Text} (h : dottedCapitalI ∈ text) (before : Text) :
    combiningDot ∈ lowerFrom before text := by
  induction text generalizing before with
  | nil => cases h
  | cons c rest ih =>
    rw [lowerFrom, List.mem_append]
    obtain rfl | hrest := List.mem_cons.mp h
    · have hsigma : ¬ dottedCapitalI.toNat = 0x3A3 := by decide
      have himage : combiningDot ∈ lowerChar dottedCapitalI := by decide
      simp [hsigma, himage]
    · exact .inr (ih hrest _)

/-- Where a target has no dots, no text of its lower case has a dotted capital. -/
theorem count_eq_zero_of_lower_eq {text target : Text} (hdotted : dottedCapitalI ∉ target)
    (hdot : combiningDot ∉ target) (h : text.lower = target.lower) :
    text.count dottedCapitalI = 0 := by
  rw [List.count_eq_zero]
  intro hmem
  have hlower := combiningDot_mem_lowerFrom hmem []
  rw [← Text.lower, h, Text.lower] at hlower
  obtain hsource | hsource := mem_of_combiningDot_mem_lowerFrom hlower
  · exact hdotted hsource
  · exact hdot hsource

end TemplateAudit
