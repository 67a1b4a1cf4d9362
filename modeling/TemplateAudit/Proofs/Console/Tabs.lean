import TemplateAudit.Proofs.Console.Line

namespace TemplateAudit

namespace Console

/-- A piece with a tab behind it takes the same columns whatever comes next. -/
theorem exists_fillTabs_cons (column : Nat) (piece : Text) :
    ∃ fill next, ∀ rest ≠ [],
      fillTabs column (piece :: rest) = piece ++ Text.repeated (fill + 1) ' ' ++ fillTabs next rest := by
  let reached := column + Text.columns (piece ++ [' '])
  let fill := (tabStop - reached % tabStop) % tabStop
  refine ⟨fill, reached + fill, fun rest hrest => ?_⟩
  obtain ⟨following, rest, rfl⟩ := List.exists_cons_of_ne_nil hrest
  rfl

/-- What comes behind the last piece changes nothing before it. -/
theorem exists_fillTabs_append (column : Nat) (init : List Text) (last first : Text) (rest : List Text) :
    ∃ later, fillTabs column (init ++ (last ++ first) :: rest) =
        fillTabs column (init ++ [last]) ++ (first ++ later) ∧ (rest = [] → later = []) := by
  induction init generalizing column with
  | nil =>
    cases rest with
    | nil => exact ⟨[], by simp [fillTabs], fun _ => rfl⟩
    | cons following rest =>
      obtain ⟨fill, next, hfill⟩ := exists_fillTabs_cons column (last ++ first)
      refine ⟨Text.repeated (fill + 1) ' ' ++ fillTabs next (following :: rest), ?_, by simp⟩
      rw [List.nil_append, List.nil_append, hfill _ (List.cons_ne_nil _ _), fillTabs]
      simp only [List.append_assoc]
  | cons piece init ih =>
    obtain ⟨fill, next, hfill⟩ := exists_fillTabs_cons column piece
    obtain ⟨later, hlater, hnil⟩ := ih next
    refine ⟨later, ?_, hnil⟩
    rw [List.cons_append, List.cons_append, hfill _ (by simp), hfill _ (by simp), hlater]
    simp only [List.append_assoc]

/-- Text without tabs comes out as it is, whatever stands before it. -/
theorem expandTabs_append {after : Text} (h : '\t' ∉ after) (before : Text) :
    expandTabs (before ++ after) = expandTabs before ++ after := by
  obtain ⟨init, last, first, rest, hbefore, hafter, happend⟩ := Text.splitAll_append '\n' before after
  have hfree : ∀ line ∈ first :: rest, '\t' ∉ line :=
    fun line hline htab => h (Text.mem_of_mem_splitAll (hafter ▸ hline) htab)
  have hline : ∀ line ∈ rest, fillTabs 0 (Text.splitAll '\t' line) = line := by
    intro line hline
    rw [Text.splitAll_of_notMem (hfree line (List.mem_cons_of_mem first hline))]
    rfl
  have hmiddle : fillTabs 0 (Text.splitAll '\t' (last ++ first)) =
      fillTabs 0 (Text.splitAll '\t' last) ++ first := by
    obtain ⟨init', last', first', rest', hlast, hfirst, hboth⟩ := Text.splitAll_append '\t' last first
    rw [Text.splitAll_of_notMem (hfree first List.mem_cons_self), List.cons.injEq] at hfirst
    obtain ⟨rfl, rfl⟩ := hfirst
    obtain ⟨later, hlater, hnil⟩ := exists_fillTabs_append 0 init' last' first []
    rw [hboth, hlast, hlater, hnil rfl, List.append_nil]
  rw [expandTabs, expandTabs, happend, hbefore, List.map_append, List.map_append, List.map_cons, hmiddle,
    List.map_congr_left hline, List.map_id', Text.join_append, ← hafter, Text.join_splitAll]
  rfl

/-- Filling up tabs brings in nothing but spaces. -/
theorem mem_fillTabs {c : Char} {column : Nat} {pieces : List Text} (h : c ∈ fillTabs column pieces) :
    c = ' ' ∨ ∃ piece ∈ pieces, c ∈ piece := by
  induction pieces generalizing column with
  | nil => exact absurd h List.not_mem_nil
  | cons piece rest ih =>
    by_cases hrest : rest = []
    · subst hrest
      exact .inr ⟨piece, List.mem_cons_self, h⟩
    obtain ⟨fill, next, hfill⟩ := exists_fillTabs_cons column piece
    rw [hfill rest hrest, List.append_assoc, List.mem_append, List.mem_append] at h
    obtain h | h | h := h
    · exact .inr ⟨piece, List.mem_cons_self, h⟩
    · exact .inl (List.eq_of_mem_replicate h)
    · obtain hspace | ⟨part, hpart, hc⟩ := ih h
      · exact .inl hspace
      · exact .inr ⟨part, List.mem_cons_of_mem piece hpart, hc⟩

/-- A tab takes at least one column, so tabs can only make a line longer; and a line is as long as before
    only if each of them takes exactly one. -/
theorem length_fillTabs (column : Nat) (pieces : List Text) :
    (Text.join [' '] pieces).length ≤ (fillTabs column pieces).length ∧
      ((fillTabs column pieces).length = (Text.join [' '] pieces).length ↔
        fillTabs column pieces = Text.join [' '] pieces) := by
  induction pieces generalizing column with
  | nil => exact ⟨Nat.le_refl _, iff_of_true rfl rfl⟩
  | cons piece rest ih =>
    by_cases hrest : rest = []
    · subst hrest
      exact ⟨Nat.le_refl _, iff_of_true rfl rfl⟩
    obtain ⟨fill, next, hfill⟩ := exists_fillTabs_cons column piece
    obtain ⟨hle, hiff⟩ := ih next
    rw [hfill rest hrest, Text.join_cons _ _ hrest]
    have hlengths : (piece ++ Text.repeated (fill + 1) ' ' ++ fillTabs next rest).length =
        piece.length + (fill + 1) + (fillTabs next rest).length := by
      simp only [List.length_append, Text.repeated, List.length_replicate]
    have hjoined : (piece ++ [' '] ++ Text.join [' '] rest).length =
        piece.length + 1 + (Text.join [' '] rest).length := by
      simp only [List.length_append, List.length_singleton]
    refine ⟨by omega, fun hlength => ?_, congrArg List.length⟩
    obtain rfl : fill = 0 := by omega
    rw [hiff.mp (by omega)]
    rfl

/-- What a console shows of a line. -/
def shownLine (line : Text) : Text := expandTabs (line.filter (!isDropped ·))

section Line

variable {line : Text}

theorem shownLine_of_no_newline (h : '\n' ∉ line) :
    shownLine line = fillTabs 0 (Text.splitAll '\t' (line.filter (!isDropped ·))) := by
  rw [shownLine, expandTabs, Text.splitAll_of_notMem fun hmem => h (List.mem_filter.mp hmem).1]
  rfl

/-- A line is shown on one line. -/
theorem newline_not_mem_shownLine (h : '\n' ∉ line) : '\n' ∉ shownLine line := by
  rw [shownLine_of_no_newline h]
  intro hmem
  obtain hspace | ⟨piece, hpiece, hmem⟩ := mem_fillTabs hmem
  · exact absurd hspace (by decide)
  · exact h (List.mem_filter.mp (Text.mem_of_mem_splitAll hpiece hmem)).1

/-- A line starts with what is shown of any beginning of it, and steady text is shown as it is. -/
theorem exists_shownLine_append {before after : Text} (h : '\n' ∉ before ++ after) :
    ∃ later, shownLine (before ++ after) = shownLine before ++ later ∧
      ((∀ c ∈ after, isSteady c = true) → later = after) := by
  obtain ⟨init, last, first, rest, hbefore, hafter, happend⟩ :=
    Text.splitAll_append '\t' (before.filter (!isDropped ·)) (after.filter (!isDropped ·))
  obtain ⟨later, hlater, hnil⟩ := exists_fillTabs_append 0 init last first rest
  refine ⟨first ++ later, ?_, fun hsteady => ?_⟩
  · rw [shownLine_of_no_newline h, List.filter_append, happend, hlater,
      shownLine_of_no_newline fun hmem => h (List.mem_append_left after hmem), hbefore]
  · rw [filter_isDropped_of_steady hsteady, Text.splitAll_of_notMem (tab_not_mem_of_steady hsteady),
      List.cons.injEq] at hafter
    rw [← hafter.1, hnil hafter.2.symm, List.append_nil]

/-- Without tabs, a line gets shorter by the dropped controls. -/
theorem length_shownLine_of_no_tab (h : '\t' ∉ line) :
    (shownLine line).length = line.length ↔ ∀ c ∈ line, isDropped c = false := by
  rw [shownLine, expandTabs_of_no_tab fun hmem => h (List.mem_filter.mp hmem).1,
    List.length_filter_eq_length_iff]
  simp

/-- Without dropped controls, a line gets longer unless each tab takes a single column. -/
theorem length_shownLine_of_no_control (hline : '\n' ∉ line) (h : ∀ c ∈ line, isDropped c = false) :
    (shownLine line).length = line.length ↔
      shownLine line = line.map fun c => if c = '\t' then ' ' else c := by
  have hkept : line.filter (!isDropped ·) = line := by
    refine List.filter_eq_self.mpr fun c hc => ?_
    rw [h c hc]
    rfl
  have hjoin := Text.join_splitAll_replace '\t' ' ' line
  have hlength := congrArg List.length hjoin
  rw [List.length_map] at hlength
  rw [shownLine_of_no_newline hline, hkept, ← hjoin, ← hlength]
  exact (length_fillTabs 0 _).2

end Line

end Console

end TemplateAudit
