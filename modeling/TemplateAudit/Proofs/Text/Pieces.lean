import TemplateAudit.Text.Basic

namespace TemplateAudit.Text

theorem splitAll_ne_nil (separator : Char) (text : Text) : splitAll separator text ≠ [] := by
  cases text with
  | nil => simp [splitAll]
  | cons c rest =>
    rw [splitAll]
    split
    · simp
    · split <;> simp

theorem splitAll_cons_of_ne {separator c : Char} (hc : c ≠ separator) (rest : Text) :
    ∃ piece pieces, splitAll separator rest = piece :: pieces ∧
      splitAll separator (c :: rest) = (c :: piece) :: pieces := by
  obtain ⟨piece, pieces, hsplit⟩ := List.exists_cons_of_ne_nil (splitAll_ne_nil separator rest)
  exact ⟨piece, pieces, hsplit, by rw [splitAll, if_neg hc, hsplit]⟩

theorem join_cons (separator part : Text) {rest : List Text} (h : rest ≠ []) :
    join separator (part :: rest) = part ++ separator ++ join separator rest := by
  obtain ⟨next, rest, rfl⟩ := List.exists_cons_of_ne_nil h
  rfl

theorem join_cons_cons (separator : Text) (c : Char) (part : Text) (rest : List Text) :
    join separator ((c :: part) :: rest) = c :: join separator (part :: rest) := by
  cases rest <;> rfl

/-- The last part comes behind a separator of its own. -/
theorem join_concat (separator last : Text) {parts : List Text} (h : parts ≠ []) :
    join separator (parts ++ [last]) = join separator parts ++ separator ++ last := by
  induction parts with
  | nil => exact absurd rfl h
  | cons part rest ih =>
    cases rest with
    | nil => rfl
    | cons next rest =>
      rw [List.cons_append, join_cons _ _ (by simp), ih (List.cons_ne_nil _ _), join_cons _ part (List.cons_ne_nil _ _)]
      simp only [List.append_assoc]

/-- Parts are joined up to the middle of one of them, and from there on. -/
theorem join_append (separator : Text) (init : List Text) (last first : Text) (rest : List Text) :
    join separator (init ++ (last ++ first) :: rest) =
      join separator (init ++ [last]) ++ join separator (first :: rest) := by
  induction init with
  | nil =>
    cases rest with
    | nil => rfl
    | cons next rest =>
      rw [List.nil_append, List.nil_append, join_cons _ _ (List.cons_ne_nil _ _),
        join_cons _ first (List.cons_ne_nil _ _)]
      simp only [join, List.append_assoc]
  | cons part init ih =>
    rw [List.cons_append, List.cons_append, join_cons _ _ (by simp), join_cons _ _ (by simp), ih]
    simp only [List.append_assoc]

/-- Cutting a text at a character and putting another between the pieces replaces the one by the other. -/
theorem join_splitAll_replace (separator other : Char) (text : Text) :
    join [other] (splitAll separator text) = text.map fun c => if c = separator then other else c := by
  induction text with
  | nil => rfl
  | cons c rest ih =>
    rw [List.map_cons, ← ih]
    by_cases hc : c = separator
    · rw [splitAll, if_pos hc, join_cons _ _ (splitAll_ne_nil separator rest), if_pos hc]
      rfl
    · obtain ⟨piece, pieces, hrest, hcons⟩ := splitAll_cons_of_ne hc rest
      rw [hcons, join_cons_cons, ← hrest, if_neg hc]

/-- Cutting a text at a character and putting the character back gives the text. -/
theorem join_splitAll (separator : Char) (text : Text) :
    join [separator] (splitAll separator text) = text := by
  have hself : (fun c => if c = separator then separator else c) = id := by
    funext c
    exact ite_eq_right_iff.mpr Eq.symm
  rw [join_splitAll_replace, hself, List.map_id]

/-- A text without the separator is one piece. -/
theorem splitAll_of_notMem {separator : Char} {text : Text} (h : separator ∉ text) :
    splitAll separator text = [text] := by
  induction text with
  | nil => rfl
  | cons c rest ih =>
    rw [List.mem_cons, not_or] at h
    rw [splitAll, if_neg (Ne.symm h.1), ih h.2]

/-- The pieces of a text hold nothing that the text does not. -/
theorem mem_of_mem_splitAll {separator c : Char} {text piece : Text}
    (hpiece : piece ∈ splitAll separator text) (hc : c ∈ piece) : c ∈ text := by
  induction text generalizing piece with
  | nil => simp_all [splitAll]
  | cons d rest ih =>
    by_cases hd : d = separator
    · rw [splitAll, if_pos hd, List.mem_cons] at hpiece
      obtain rfl | hpiece := hpiece
      · exact absurd hc List.not_mem_nil
      · exact List.mem_cons_of_mem d (ih hpiece hc)
    · obtain ⟨first, pieces, hrest, hcons⟩ := splitAll_cons_of_ne hd rest
      rw [hcons, List.mem_cons] at hpiece
      rw [hrest] at ih
      obtain rfl | hpiece := hpiece
      · obtain rfl | hc := List.mem_cons.mp hc
        · exact List.mem_cons_self
        · exact List.mem_cons_of_mem d (ih List.mem_cons_self hc)
      · exact List.mem_cons_of_mem d (ih (List.mem_cons_of_mem first hpiece) hc)

/-- In an append the last piece of the first text runs on into the first piece of the second. -/
theorem splitAll_append (separator : Char) (before after : Text) :
    ∃ init last first rest, splitAll separator before = init ++ [last] ∧
      splitAll separator after = first :: rest ∧
      splitAll separator (before ++ after) = init ++ (last ++ first) :: rest := by
  obtain ⟨first, rest, hafter⟩ := List.exists_cons_of_ne_nil (splitAll_ne_nil separator after)
  suffices hpieces : ∃ init last, splitAll separator before = init ++ [last] ∧
      splitAll separator (before ++ after) = init ++ (last ++ first) :: rest by
    obtain ⟨init, last, hbefore, happend⟩ := hpieces
    exact ⟨init, last, first, rest, hbefore, hafter, happend⟩
  induction before with
  | nil => exact ⟨[], [], rfl, hafter⟩
  | cons c before ih =>
    obtain ⟨init, last, hbefore, happend⟩ := ih
    by_cases hc : c = separator
    · refine ⟨[] :: init, last, ?_, ?_⟩
      · rw [splitAll, if_pos hc, hbefore, List.cons_append]
      · rw [List.cons_append, splitAll, if_pos hc, happend, List.cons_append]
    · cases init with
      | nil =>
        refine ⟨[], c :: last, ?_, ?_⟩
        · rw [splitAll, if_neg hc, hbefore, List.nil_append, List.nil_append]
        · rw [List.cons_append, splitAll, if_neg hc, happend, List.nil_append, List.nil_append,
            List.cons_append]
      | cons piece init =>
        refine ⟨(c :: piece) :: init, last, ?_, ?_⟩
        · rw [splitAll, if_neg hc, hbefore, List.cons_append, List.cons_append]
        · rw [List.cons_append, splitAll, if_neg hc, happend, List.cons_append, List.cons_append]

/-- The first piece reaches up to the first place of the character. -/
theorem takeWhile_of_splitAll {separator : Char} {text first : Text} {rest : List Text}
    (h : splitAll separator text = first :: rest) : text.takeWhile (· != separator) = first := by
  induction text generalizing first rest with
  | nil => exact (List.cons.inj h).1
  | cons c text ih =>
    by_cases hc : c = separator
    · rw [splitAll, if_pos hc] at h
      rw [List.takeWhile_cons_of_neg (by simp [hc]), (List.cons.inj h).1]
    · obtain ⟨piece, pieces, htext, hcons⟩ := splitAll_cons_of_ne hc text
      rw [hcons] at h
      rw [List.takeWhile_cons_of_pos (by simp [hc]), ih htext, (List.cons.inj h).1]

end TemplateAudit.Text
