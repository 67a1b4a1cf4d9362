import TemplateAudit.Proofs.Text.Run
import TemplateAudit.Text.Newlines
import TemplateAudit.Text.Search

namespace TemplateAudit.Text

/-- How many line ends of a text are a carriage return with a line feed. -/
def pairedNewlines (text : Text) : Nat := (text.occurrences ['\r', '\n']).length

/-- How often a needle occurs does not depend on where counting starts. -/
theorem length_occurrencesFrom (needle : Text) (text : Text) (offset : Nat) :
    (occurrencesFrom needle offset text).length = (text.occurrences needle).length := by
  rw [occurrences]
  generalize 0 = first
  induction text generalizing offset first with
  | nil =>
    simp only [occurrencesFrom]
    split <;> rfl
  | cons c rest ih =>
    simp only [occurrencesFrom]
    split
    · rw [List.length_cons, List.length_cons, ih (offset + 1) (first + 1)]
    · exact ih (offset + 1) (first + 1)

@[simp]
theorem pairedNewlines_pair (rest : Text) :
    pairedNewlines ('\r' :: '\n' :: rest) = pairedNewlines rest + 1 := by
  simp only [pairedNewlines, occurrences, occurrencesFrom, List.isPrefixOf]
  simp [length_occurrencesFrom, occurrences]

/-- A character that starts no pair does not count. -/
theorem pairedNewlines_cons {c : Char} {rest : Text} (h : ∀ tail, c = '\r' → rest ≠ '\n' :: tail) :
    pairedNewlines (c :: rest) = pairedNewlines rest := by
  have hpair : ['\r', '\n'].isPrefixOf (c :: rest) = false := by
    refine Bool.eq_false_iff.mpr fun hpair => ?_
    obtain ⟨tail, htail⟩ := List.isPrefixOf_iff_prefix.mp hpair
    obtain ⟨hc, hrest⟩ := List.cons.inj htail
    exact h tail hc.symm hrest.symm
  rw [pairedNewlines, occurrences, occurrencesFrom, if_neg (by simp [hpair]), length_occurrencesFrom]
  rfl

theorem uniformNewlines_cons {c : Char} {rest : Text} (h : ∀ tail, c = '\r' → rest ≠ '\n' :: tail) :
    uniformNewlines (c :: rest) = (if c = '\r' then '\n' else c) :: uniformNewlines rest := by
  rw [uniformNewlines]
  exact h

/-- Each pair of carriage return and line feed becomes one character. -/
theorem length_uniformNewlines (text : Text) :
    (uniformNewlines text).length + pairedNewlines text = text.length := by
  induction text using uniformNewlines.induct with
  | case1 => rfl
  | case2 rest ih =>
    rw [uniformNewlines, pairedNewlines_pair]
    simp only [List.length_cons]
    omega
  | case3 c rest hpair ih =>
    rw [uniformNewlines_cons hpair, pairedNewlines_cons hpair]
    simp only [List.length_cons]
    omega

/-- A cut of the uniform text comes from a cut of the text, and never from one within a pair. -/
theorem exists_append_of_uniformNewlines {text first second : Text}
    (h : uniformNewlines text = first ++ second) :
    ∃ before after, text = before ++ after ∧ uniformNewlines before = first ∧
      uniformNewlines after = second := by
  induction text using uniformNewlines.induct generalizing first with
  | case1 =>
    obtain ⟨rfl, rfl⟩ := List.append_eq_nil_iff.mp h.symm
    exact ⟨[], [], rfl, rfl, rfl⟩
  | case2 rest ih =>
    cases first with
    | nil => exact ⟨[], _, rfl, rfl, h⟩
    | cons head tail =>
      -- A pair gives a single character, so both of its characters lie before the cut.
      rw [uniformNewlines, List.cons_append] at h
      obtain ⟨rfl, hrest⟩ := List.cons.inj h
      obtain ⟨before, after, rfl, rfl, rfl⟩ := ih hrest
      exact ⟨'\r' :: '\n' :: before, after, rfl, rfl, rfl⟩
  | case3 c rest hpair ih =>
    cases first with
    | nil => exact ⟨[], _, rfl, rfl, h⟩
    | cons head tail =>
      rw [uniformNewlines_cons hpair, List.cons_append] at h
      obtain ⟨rfl, hrest⟩ := List.cons.inj h
      obtain ⟨before, after, rfl, rfl, rfl⟩ := ih hrest
      refine ⟨c :: before, after, rfl, uniformNewlines_cons ?_, rfl⟩
      rintro tail rfl rfl
      exact hpair _ rfl rfl

/-- Within a line the uniform text is the text. -/
theorem eq_of_uniformNewlines_line {text : Text} (h : '\n' ∉ uniformNewlines text) :
    uniformNewlines text = text := by
  induction text using uniformNewlines.induct with
  | case1 => rfl
  | case2 rest ih =>
    rw [uniformNewlines] at h
    exact absurd List.mem_cons_self h
  | case3 c rest hpair ih =>
    rw [uniformNewlines_cons hpair] at h ⊢
    obtain ⟨hc, hrest⟩ := not_or.mp (List.mem_cons.not.mp h)
    rw [ih hrest]
    split at hc
    · exact absurd rfl hc
    · next hreturn => rw [if_neg hreturn]

/-- What stands in a line of the uniform text stands in the text too, further on by the pairs of carriage
    return and line feed before it. -/
theorem exists_of_drop_uniformNewlines {text marked rest : Text} {start : Nat}
    (hmarked : (uniformNewlines text).drop start = marked ++ rest) (hne : marked ≠ [])
    (hline : '\n' ∉ marked) :
    ∃ before after, text = before ++ marked ++ after ∧ start + pairedNewlines before = before.length := by
  have hsplit : uniformNewlines text = (uniformNewlines text).take start ++ (marked ++ rest) := by
    rw [← hmarked, List.take_append_drop]
  obtain ⟨before, later, htext, hbefore, hlater⟩ := exists_append_of_uniformNewlines hsplit
  obtain ⟨spelled, after, rfl, hspelled, _⟩ := exists_append_of_uniformNewlines hlater
  rw [← hspelled] at hline
  obtain rfl := (eq_of_uniformNewlines_line hline).symm.trans hspelled
  refine ⟨before, after, by rw [List.append_assoc, htext], ?_⟩
  have hstart : start ≤ (uniformNewlines text).length := by
    have hlength := congrArg List.length hmarked
    have hpos := List.length_pos_iff.mpr hne
    rw [List.length_drop, List.length_append] at hlength
    omega
  have hlength := length_uniformNewlines before
  rw [hbefore, List.length_take, Nat.min_eq_left hstart] at hlength
  exact hlength

end TemplateAudit.Text
