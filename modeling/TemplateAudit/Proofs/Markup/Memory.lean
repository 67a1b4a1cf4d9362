import TemplateAudit.Proofs.Markup.LastClose

namespace TemplateAudit

/-- No closing `>` can be read from a dead offset. -/
def DeadIn (whole : Text) (dead : Std.HashSet Nat) : Prop :=
  ∀ i, dead.contains i = true → TagItem.readAll? (whole.drop i) = none

theorem deadIn_empty (whole : Text) : DeadIn whole ∅ := by
  intro i hi
  simp at hi

/-- Offsets from which no tag is closed may be added to the dead ones. -/
theorem DeadIn.insertMany {whole : Text} {dead : Std.HashSet Nat} (hdead : DeadIn whole dead)
    {visited : List Nat} (hvisited : ∀ i ∈ visited, TagItem.readAll? (whole.drop i) = none) :
    DeadIn whole (dead.insertMany visited) := by
  intro i hi
  rw [Std.HashSet.contains_insertMany_list, Bool.or_eq_true, List.contains_iff_mem] at hi
  obtain hi | hi := hi
  · exact hdead i hi
  · exact hvisited i hi

/-- Giving up at a dead offset changes no reading, and a failed reading buries only offsets from which
    every reading fails. -/
theorem readItems_spec {whole : Text} {dead : Std.HashSet Nat} (hdead : DeadIn whole dead)
    (read : List TagItem) (visited : List Nat) (offset : Nat) (text : Text)
    (htext : whole.drop offset = text)
    (hvisited : TagItem.readAll? text = none → ∀ i ∈ visited, TagItem.readAll? (whole.drop i) = none) :
    (readItems dead read visited offset text).1 =
        (TagItem.readAll? text).map (fun parts => read.reverse ++ parts.1) ∧
      DeadIn whole (readItems dead read visited offset text).2 := by
  fun_induction readItems dead read visited offset text with
  | case1 read visited offset =>
    have hnone : TagItem.readAll? [] = none := by rw [TagItem.readAll?]
    rw [hnone]
    exact ⟨rfl, hdead.insertMany (hvisited hnone)⟩
  | case2 read visited offset c rest hcontains =>
    have hnone := hdead offset hcontains
    rw [htext] at hnone
    rw [hnone]
    exact ⟨rfl, hdead.insertMany (hvisited hnone)⟩
  | case3 read visited offset c rest _ hclose =>
    obtain rfl : c = '>' := by simpa using hclose
    rw [TagItem.readAll?_close]
    exact ⟨by simp, hdead⟩
  | case4 read visited offset c rest _ hclose hitem =>
    have hhead : (c :: rest).head? ≠ some '>' := by simpa using hclose
    have hnone := TagItem.readAll?_of_unreadable hhead hitem
    rw [hnone]
    refine ⟨rfl, hdead.insertMany ?_⟩
    intro i hi
    obtain rfl | hi := List.mem_cons.mp hi
    · rw [htext, hnone]
    · exact hvisited hnone i hi
  | case5 read visited offset c rest _ hclose item remaining hitem ih =>
    have hhead : (c :: rest).head? ≠ some '>' := by simpa using hclose
    have hall := TagItem.readAll?_of_readable hhead hitem
    have hremaining : whole.drop (offset + item.text.length) = remaining := by
      rw [← List.drop_drop, htext, (TagItem.fits_of_read? hhead hitem).1, List.drop_left]
    have hburied : TagItem.readAll? remaining = none →
        ∀ i ∈ offset :: visited, TagItem.readAll? (whole.drop i) = none := by
      intro hnone i hi
      rw [hnone, Option.map_none] at hall
      obtain rfl | hi := List.mem_cons.mp hi
      · rw [htext, hall]
      · exact hvisited hall i hi
    obtain ⟨hread, hstays⟩ := ih hremaining hburied
    refine ⟨?_, hstays⟩
    rw [hread, hall, Option.map_map]
    simp [Function.comp_def]

/-- What the memory says holds for the text, and its tag name end for every `<` from `offset` on. -/
structure ScanMemory.Sound (whole : Text) (offset : Nat) (memory : ScanMemory) : Prop where
  dead : DeadIn whole memory.dead
  nameStop : ∀ i, offset ≤ i → i < memory.nameStop →
    memory.nameStop = i + 1 + ((whole.drop (i + 1)).takeWhile (!endsTagName ·)).length
  nameRest : ∀ i, offset ≤ i → i < memory.nameStop →
    memory.nameRest = (whole.drop (i + 1)).dropWhile (!endsTagName ·)

theorem ScanMemory.sound_empty (whole : Text) : ScanMemory.empty.Sound whole 0 where
  dead := deadIn_empty whole
  nameStop := fun _ _ hlt => absurd hlt (Nat.not_lt_zero _)
  nameRest := fun _ _ hlt => absurd hlt (Nat.not_lt_zero _)

theorem ScanMemory.Sound.later {whole : Text} {memory : ScanMemory} {i j : Nat} (hle : i ≤ j)
    (h : memory.Sound whole i) : memory.Sound whole j where
  dead := h.dead
  nameStop := fun k hk => h.nameStop k (hle.trans hk)
  nameRest := fun k hk => h.nameRest k (hle.trans hk)

/-- After the search for it, the end of the tag name is known, whether or not it was remembered. -/
theorem ScanMemory.Sound.seekNameStop {whole : Text} {memory : ScanMemory} {offset : Nat}
    (h : memory.Sound whole offset) :
    let found := memory.seekNameStop offset (whole.drop (offset + 1))
    found.nameStop = offset + 1 + ((whole.drop (offset + 1)).takeWhile (!endsTagName ·)).length ∧
      found.nameRest = (whole.drop (offset + 1)).dropWhile (!endsTagName ·) ∧
      found.Sound whole offset := by
  intro found
  by_cases hknown : offset < memory.nameStop
  · have hfound : found = memory := if_pos hknown
    rw [hfound]
    exact ⟨h.nameStop offset le_rfl hknown, h.nameRest offset le_rfl hknown, h⟩
  · have hfound : found = { memory with
        nameStop := offset + 1 + ((whole.drop (offset + 1)).takeWhile (!endsTagName ·)).length
        nameRest := (whole.drop (offset + 1)).dropWhile (!endsTagName ·) } := if_neg hknown
    have hshared (i : Nat) (hle : offset ≤ i) (hlt : i < found.nameStop) :
        i + 1 + ((whole.drop (i + 1)).takeWhile (!endsTagName ·)).length = found.nameStop ∧
          (whole.drop (i + 1)).dropWhile (!endsTagName ·) = found.nameRest := by
      rw [hfound] at hlt ⊢
      exact Text.run_shared (Nat.succ_le_succ hle) hlt
    refine ⟨by rw [hfound], by rw [hfound], by rw [hfound]; exact h.dead, ?_, ?_⟩
    · exact fun i hle hlt => (hshared i hle hlt).1.symm
    · exact fun i hle hlt => (hshared i hle hlt).2.symm

/-- One reading: a sound memory gives the tag that the plain reader gives, and stays sound for all that
    follows the `<`. -/
theorem ScanMemory.Sound.quickReader_eq {whole : Text} {memory : ScanMemory} {offset : Nat}
    (h : memory.Sound whole offset) :
    (quickReader memory offset (whole.drop (offset + 1))).1 =
        (plainReader () offset (whole.drop (offset + 1))).1 ∧
      (quickReader memory offset (whole.drop (offset + 1))).2.Sound whole (offset + 1) := by
  obtain ⟨hstop, hrest, hsound⟩ := h.seekNameStop
  rw [quickReader, plainReader, WrittenTag.read?]
  generalize memory.seekNameStop offset (whole.drop (offset + 1)) = found at hstop hrest hsound ⊢
  have hbody : whole.drop found.nameStop = found.nameRest := by
    have hname := Text.drop_isLongestRun (Nat.le_refl
      ((whole.drop (offset + 1)).takeWhile (!endsTagName ·)).length)
    rw [hstop, ← List.drop_drop, hname.1, List.drop_length, List.nil_append, hrest]
  have htake : (whole.drop (offset + 1)).take (found.nameStop - (offset + 1)) =
      (whole.drop (offset + 1)).takeWhile (!endsTagName ·) := by
    rw [hstop, Nat.add_sub_cancel_left]
    exact (List.prefix_iff_eq_take.mp (List.takeWhile_prefix _)).symm
  obtain ⟨hread, hdead⟩ := readItems_spec hsound.dead [] [] found.nameStop found.nameRest hbody
    (fun _ i hi => absurd hi List.not_mem_nil)
  have hlater := hsound.later (Nat.le_succ offset)
  rw [htake, ← hrest]
  generalize readItems found.dead [] [] found.nameStop found.nameRest = outcome at hread hdead ⊢
  obtain ⟨items, dead⟩ := outcome
  cases hall : TagItem.readAll? found.nameRest with
  | none =>
    obtain rfl : items = none := by simpa [hall] using hread
    exact ⟨rfl, hdead, hlater.nameStop, hlater.nameRest⟩
  | some parts =>
    obtain rfl : items = some parts.1 := by simpa [hall] using hread
    exact ⟨rfl, hdead, hlater.nameStop, hlater.nameRest⟩

/-- The quick walk finds exactly the tags of the plain one. -/
theorem quickTags_eq_plainTags (text : Text) : quickTags text = plainTags text := by
  have hsame : tagsBy quickReader .empty 0 ((throughLastClose text).drop 0) =
      tagsBy plainReader () 0 ((throughLastClose text).drop 0) :=
    tagsBy_eq_of_simulation (throughLastClose text)
      (fun offset (memory : ScanMemory) _ => memory.Sound (throughLastClose text) offset)
      (fun hle h => h.later hle) (fun h => h.quickReader_eq)
      (ScanMemory.sound_empty (throughLastClose text))
  exact hsame.trans (plainTags_throughLastClose text)

end TemplateAudit
