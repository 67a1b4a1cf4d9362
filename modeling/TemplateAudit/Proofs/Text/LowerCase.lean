import TemplateAudit.Text.Case

namespace TemplateAudit

/-- What holds of the ASCII codes holds of every ASCII character. -/
@[elab_as_elim]
theorem of_ascii {motive : Char → Prop} (h : ∀ n < 0x80, motive (Char.ofNat n)) (c : Char) (hc : c.toNat < 0x80) :
    motive c := by
  have hcode := h c.toNat hc
  rwa [Char.ofNat_toNat] at hcode

/-- The code point of the Kelvin sign. -/
def kelvinCode : Nat := 0x212A

/-- A run along which lower case stays among the code points of characters outside ASCII. -/
def CaseRun.LeavesAscii (run : CaseRun) : Prop :=
  0x80 ≤ run.image ∧ run.image + (run.last - run.first) < 0xD800 ∨
    0xDFFF < run.image ∧ run.image + (run.last - run.first) < 0x110000

instance (run : CaseRun) : Decidable run.LeavesAscii := inferInstanceAs (Decidable (_ ∨ _))

set_option maxRecDepth 4000 in
/-- Of all runs of lower case letters only that of the Kelvin sign leads into ASCII from outside. -/
theorem leavesAscii_of_mem_lowerRuns :
    ∀ run ∈ lowerRuns, run = ⟨kelvinCode, kelvinCode, 1, 0x6B⟩ ∨ run.LeavesAscii := by
  decide

/-- A run moves a character to its image, or no run has the character. -/
theorem CaseRun.apply_cases (runs : List CaseRun) (code : Nat) :
    CaseRun.apply runs code = code ∨
      ∃ run ∈ runs, run.first ≤ code ∧ code ≤ run.last ∧
        CaseRun.apply runs code = run.image + (code - run.first) := by
  unfold CaseRun.apply
  split
  · next run hfind =>
    have hcovers := List.find?_some hfind
    simp only [CaseRun.covers, Bool.and_eq_true, decide_eq_true_eq] at hcovers
    exact .inr ⟨run, List.mem_of_find?_eq_some hfind, hcovers.1.1, hcovers.1.2, rfl⟩
  · exact .inl rfl

/-- The lower-case image of a character outside ASCII is not ASCII, unless it is the Kelvin sign. -/
theorem lowerChar_not_ascii {c : Char} (hc : 0x80 ≤ c.toNat) (hkelvin : c.toNat ≠ kelvinCode) :
    ∃ d ∈ lowerChar c, 0x80 ≤ d.toNat := by
  unfold lowerChar
  rw [if_neg (by omega)]
  split
  · exact ⟨Char.ofNat 0x307, by simp, by decide⟩
  · refine ⟨_, List.mem_singleton.mpr rfl, ?_⟩
    obtain hsame | ⟨run, hrun, hfirst, hlast, himage⟩ := CaseRun.apply_cases lowerRuns c.toNat
    · rw [hsame, Char.ofNat_toNat]
      exact hc
    · obtain rfl | hleaves := leavesAscii_of_mem_lowerRuns run hrun
      · exact absurd (Nat.le_antisymm hlast hfirst) hkelvin
      · have hvalid : (run.image + (c.toNat - run.first)).isValidChar := by
          obtain ⟨_, hhigh⟩ | ⟨hlow, hhigh⟩ := hleaves
          · exact .inl (by omega)
          · exact .inr ⟨by omega, by omega⟩
        rw [himage, Char.ofNat, dif_pos hvalid]
        show 0x80 ≤ run.image + (c.toNat - run.first)
        obtain ⟨hlow, _⟩ | ⟨hlow, _⟩ := hleaves <;> omega

/-- ASCII without the two letters that the Kelvin sign shares its lower case with. -/
def isPlainAscii (c : Char) : Bool := c.toNat < 0x80 && c != 'k' && c != 'K'

/-- On ASCII the lower case is that of each letter by itself. -/
theorem lowerFrom_ascii {text : Text} (h : ∀ c ∈ text, c.toNat < 0x80) (before : Text) :
    lowerFrom before text = text.map Char.toLower := by
  induction text generalizing before with
  | nil => rfl
  | cons c rest ih =>
    have hc : c.toNat < 0x80 := h c List.mem_cons_self
    have hsigma : c.toNat ≠ 0x3A3 := by omega
    simp [lowerFrom, lowerChar, hc, hsigma, ih (fun d hd => h d (List.mem_cons_of_mem c hd))]

theorem lowerChar_kelvin {c : Char} (h : c.toNat = kelvinCode) : lowerChar c = ['k'] := by
  have hc : c = Char.ofNat kelvinCode := by rw [← h, Char.ofNat_toNat]
  rw [hc]
  decide

/-- Wherever a character outside ASCII stands, its lower case shows it: it is not ASCII, or it is
    the `k` of the Kelvin sign. -/
theorem lowerFrom_cons_not_ascii {c : Char} (hc : 0x80 ≤ c.toNat) (before rest : Text) :
    ∃ d ∈ lowerFrom before (c :: rest), 0x80 ≤ d.toNat ∨ d = 'k' := by
  rw [lowerFrom]
  split
  · exact ⟨Char.ofNat 0x3C2, by simp, .inl (by decide)⟩
  · by_cases hkelvin : c.toNat = kelvinCode
    · refine ⟨'k', List.mem_append_left _ ?_, .inr rfl⟩
      rw [lowerChar_kelvin hkelvin]
      exact List.mem_singleton.mpr rfl
    · obtain ⟨d, hmem, hd⟩ := lowerChar_not_ascii hc hkelvin
      exact ⟨d, List.mem_append_left _ hmem, .inl hd⟩

/-- A text whose lower case is ASCII without `k` is ASCII itself. -/
theorem ascii_of_lowerFrom (before : Text) {text : Text}
    (h : ∀ d ∈ lowerFrom before text, d.toNat < 0x80 ∧ d ≠ 'k') : ∀ c ∈ text, c.toNat < 0x80 := by
  induction text generalizing before with
  | nil => exact fun c hc => absurd hc List.not_mem_nil
  | cons c rest ih =>
    have hlater : ∀ d ∈ lowerFrom (c :: before) rest, d.toNat < 0x80 ∧ d ≠ 'k' :=
      fun d hd => h d (List.mem_append_right _ hd)
    refine List.forall_mem_cons.mpr ⟨?_, ih _ hlater⟩
    refine Nat.lt_of_not_le fun hc => ?_
    obtain ⟨d, hmem, hd⟩ := lowerFrom_cons_not_ascii hc before rest
    obtain ⟨hascii, hk⟩ := h d hmem
    obtain hd | hd := hd
    · omega
    · exact hk hd

theorem toNat_lt_of_isPlainAscii {c : Char} (h : isPlainAscii c = true) : c.toNat < 0x80 := by
  simp only [isPlainAscii, Bool.and_eq_true, decide_eq_true_eq] at h
  exact h.1.1

theorem toLower_of_isPlainAscii {c : Char} (h : isPlainAscii c = true) :
    c.toLower.toNat < 0x80 ∧ c.toLower ≠ 'k' := by
  have hall : ∀ n < 0x80, isPlainAscii (Char.ofNat n) = true →
      (Char.ofNat n).toLower.toNat < 0x80 ∧ (Char.ofNat n).toLower ≠ 'k' := by decide
  have hascii := toNat_lt_of_isPlainAscii h
  revert h
  exact of_ascii hall c hascii

/-- A text whose lower case is that of plain ASCII differs from it only in the case of letters. -/
theorem map_toLower_of_lower_eq {text target : Text} (htarget : ∀ c ∈ target, isPlainAscii c = true)
    (h : text.lower = target.lower) : text.map Char.toLower = target.map Char.toLower := by
  have hascii : ∀ c ∈ target, c.toNat < 0x80 := fun c hc => toNat_lt_of_isPlainAscii (htarget c hc)
  have hlower : target.lower = target.map Char.toLower := lowerFrom_ascii hascii []
  rw [hlower] at h
  have htext : ∀ c ∈ text, c.toNat < 0x80 := by
    refine ascii_of_lowerFrom [] fun d hd => ?_
    rw [← Text.lower, h] at hd
    obtain ⟨c, hc, rfl⟩ := List.mem_map.mp hd
    exact toLower_of_isPlainAscii (htarget c hc)
  rw [← h]
  exact (lowerFrom_ascii htext []).symm

end TemplateAudit
