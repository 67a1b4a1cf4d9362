import TemplateAudit.Proofs.Markup.Search

namespace TemplateAudit

theorem Text.not_mem_of_lastIndex? {text : Text} {mark : Char} (h : text.lastIndex? mark = none) :
    mark ∉ text := by
  induction text with
  | nil => exact List.not_mem_nil
  | cons c rest ih =>
    rw [Text.lastIndex?] at h
    cases hrest : Text.lastIndex? rest mark with
    | some i => simp [hrest] at h
    | none =>
      have hc : c ≠ mark := by simpa [hrest] using h
      simpa [hc.symm] using ih hrest

/-- The last index of a character holds it, and none stands behind that. -/
theorem Text.lastIndex?_eq_some {text : Text} {mark : Char} {i : Nat} (h : text.lastIndex? mark = some i) :
    text[i]? = some mark ∧ mark ∉ text.drop (i + 1) := by
  induction text generalizing i with
  | nil => cases h
  | cons c rest ih =>
    rw [Text.lastIndex?] at h
    cases hrest : Text.lastIndex? rest mark with
    | some j =>
      obtain rfl : j + 1 = i := by simpa [hrest] using h
      exact ih hrest
    | none =>
      obtain ⟨rfl, rfl⟩ : c = mark ∧ 0 = i := by simpa [hrest] using h
      exact ⟨rfl, Text.not_mem_of_lastIndex? hrest⟩

theorem Text.lastIndex?_lt {text : Text} {mark : Char} {i : Nat} (h : text.lastIndex? mark = some i) :
    i < text.length :=
  (List.getElem?_eq_some_iff.mp (Text.lastIndex?_eq_some h).1).1

/-- A tag may still be closed at an offset exactly if a `>` stands there or further on. -/
theorem mayClose_iff {text : Text} {offset : Nat} :
    mayClose text offset = true ↔ '>' ∈ text.drop offset := by
  rw [mayClose]
  cases hlast : text.lastIndex? '>' with
  | none =>
    have hnone := Text.not_mem_of_lastIndex? hlast
    simpa using fun hmem => hnone (List.mem_of_mem_drop hmem)
  | some last =>
    obtain ⟨hget, hbehind⟩ := Text.lastIndex?_eq_some hlast
    simp only [Option.any_some, decide_eq_true_iff]
    constructor
    · intro hle
      apply List.mem_of_getElem?
      rw [List.getElem?_drop, Nat.add_sub_cancel' hle, hget]
    · intro hmem
      by_contra hnot
      exact hbehind (List.drop_subset_drop_left text (by omega) hmem)

theorem mayClose_of_le {text : Text} {offset later : Nat} (hle : offset ≤ later)
    (h : mayClose text later = true) : mayClose text offset = true :=
  mayClose_iff.mpr (List.drop_subset_drop_left text hle (mayClose_iff.mp h))

theorem lt_length_of_mayClose {text : Text} {offset : Nat} (h : mayClose text offset = true) :
    offset < text.length := by
  have hpos := List.length_pos_of_mem (mayClose_iff.mp h)
  rw [List.length_drop] at hpos
  omega

/-- What is searched for stands at the index that is found. -/
theorem Text.drop_of_indexFrom? {text needle : Text} {start index : Nat}
    (h : text.indexFrom? needle start = some index) : ∃ rest, text.drop index = needle ++ rest := by
  simp only [Text.indexFrom?, Option.map_eq_some_iff, Prod.exists] at h
  obtain ⟨before, after, hsplit, rfl⟩ := h
  have htext := Text.append_of_splitAtFirst? hsplit
  rw [List.append_assoc] at htext
  exact ⟨after, Text.drop_append htext⟩

theorem Text.exists_indexFrom? {text : Text} {mark : Char} {start : Nat} (h : mark ∈ text.drop start) :
    ∃ index, text.indexFrom? [mark] start = some index := by
  obtain ⟨hnotMem, _⟩ | ⟨after, hdrop, _, _⟩ := Text.search_cases mark (text.drop start)
  · exact absurd h hnotMem
  · rw [Text.indexFrom?, Text.splitAtFirst?_singleton, hdrop]
    exact ⟨_, rfl⟩

/-- The offset at which the tag name behind the `<` at `start` ends. -/
def tagNameEnd (text : Text) (start : Nat) : Nat :=
  start + 1 + ((text.drop (start + 1)).takeWhile (!endsTagName ·)).length

theorem lt_tagNameEnd (text : Text) (start : Nat) : start < tagNameEnd text start := by
  rw [tagNameEnd]
  omega

theorem drop_tagNameEnd (text : Text) (start : Nat) :
    text.drop (tagNameEnd text start) = (text.drop (start + 1)).dropWhile (!endsTagName ·) := by
  rw [tagNameEnd, Text.drop_add_length_takeWhile]

/-- A `<` inside a tag name shares the end of that name. -/
theorem tagNameEnd_shared {text : Text} {start i : Nat} (hle : start ≤ i) (hlt : i < tagNameEnd text start) :
    tagNameEnd text i = tagNameEnd text start :=
  (Text.run_shared (Nat.succ_le_succ hle) hlt).1

/-- Up to the end of a tag name, the character that ends it is the first one that ends any. -/
theorem endsTagName_iff {text : Text} {start position : Nat} {c : Char} (hstart : start < position)
    (hle : position ≤ tagNameEnd text start) (hc : text[position]? = some c) :
    endsTagName c = true ↔ tagNameEnd text start = position := by
  obtain ⟨before, rfl⟩ := Nat.exists_eq_add_of_lt hstart
  obtain ⟨rest, hdrop⟩ : ∃ rest, text.drop (start + before + 1) = c :: rest := by
    rw [← List.head?_drop] at hc
    exact List.head?_eq_some_iff.mp hc
  rw [← tagNameEnd_shared (Nat.le_add_right start before) hle, tagNameEnd, hdrop]
  by_cases hends : endsTagName c = true
  · simp [hends]
  · simp [hends]

/-- A `<` that a tag may open has the end of the tag name before the last `>`. -/
theorem mayClose_tagNameEnd {text rest : Text} {start : Nat} (hopen : text.drop start = '<' :: rest)
    (h : mayClose text start = true) : mayClose text (tagNameEnd text start) = true := by
  rw [mayClose_iff, hopen] at h
  have hrest : '>' ∈ rest := by simpa using h
  rw [mayClose_iff, drop_tagNameEnd, (Text.drop_eq_cons hopen).2]
  rw [← List.takeWhile_append_dropWhile (p := (!endsTagName ·)) (l := rest), List.mem_append] at hrest
  obtain hname | hbehind := hrest
  · exact absurd (List.mem_takeWhile_imp hname) (by decide)
  · exact hbehind

/-- An end tag or a declaration has its `>`, since it does not begin behind the last one. -/
theorem exists_close_of_declaration {text rest : Text} {start : Nat} {next : Char}
    (hopen : text.drop start = '<' :: rest) (hclose : mayClose text start = true)
    (hnext : text[start + 1]? = some next) (hkind : next = '/' ∨ next = '!' ∨ next = '?') :
    ∃ close, text.indexFrom? ['>'] (start + 2) = some close := by
  apply Text.exists_indexFrom?
  have hrest := (Text.drop_eq_cons hopen).2
  rw [← List.head?_drop, hrest] at hnext
  obtain ⟨rest, rfl⟩ := List.head?_eq_some_iff.mp hnext
  rw [(Text.drop_eq_cons hrest).2]
  have hmem : '>' ∈ '<' :: next :: rest := by rwa [mayClose_iff, hopen] at hclose
  obtain rfl | rfl | rfl := hkind <;> simpa using hmem

/-- No tags are found from a `<` on that has no `>` behind it. -/
theorem TagMachine.tagsFrom_of_no_close {text : Text} {position start : Nat}
    (hopen : text.indexFrom? ['<'] position = some start) (h : ¬ mayClose text start = true) :
    tagsFrom text position = [] := by
  obtain ⟨rest, hdrop⟩ := Text.drop_of_indexFrom? hopen
  -- Some `>` may stand before the `<`, so the walk is looked at from there.
  have hsame : tagsFrom text position = tagsFrom text start := by
    rw [tagsFrom_eq_open, hopen, tagsFrom_of_open hdrop]
  rw [hsame, tagsFrom_eq_tagsBy]
  exact tagsBy_plainReader_of_no_close (fun hmem => h (mayClose_iff.mpr hmem)) start

/-- A tag is closed at a `>`. -/
theorem TagMachine.close_of_step_closed {text : Text} {machine : TagMachine}
    (h : step text machine = .closed) : text[machine.position]? = some '>' := by
  cases hc : text[machine.position]? with
  | none => simp [step, hc] at h
  | some c =>
    simp only [step, hc] at h
    cases hstate : machine.state with
    | beforeAttributeName =>
      simp only [hstate] at h
      split_ifs at h with hclose
      rw [hclose]
    | attributeName | afterAttributeName | beforeAttributeValue | bareValue =>
      simp only [hstate] at h
      split_ifs at h
    | quotedValue =>
      simp only [hstate] at h
      split at h <;> cases h

/-- No step changes where the tag starts. -/
theorem TagMachine.tagStart_of_step {text : Text} {machine next : TagMachine}
    (h : step text machine = .moved next) : next.tagStart = machine.tagStart := by
  cases hc : text[machine.position]? with
  | none => simp [step, hc] at h
  | some c =>
    simp only [step, hc] at h
    cases hstate : machine.state with
    | beforeAttributeName | attributeName | afterAttributeName | beforeAttributeValue | bareValue =>
      simp only [hstate] at h
      split_ifs at h <;> cases h <;> rfl
    | quotedValue =>
      simp only [hstate] at h
      split at h <;> cases h
      rfl

/-- The machine does not close a tag where no `>` is left. -/
theorem TagMachine.run_of_no_close {text : Text} {machine : TagMachine}
    (h : ¬ mayClose text machine.position = true) : run text machine = none := by
  induction hweight : machine.remaining text using Nat.strong_induction_on generalizing machine with
  | h weight ih =>
    cases hstep : step text machine with
    | closed =>
      have hclose := close_of_step_closed hstep
      rw [← List.head?_drop] at hclose
      exact absurd (mayClose_iff.mpr (List.mem_of_mem_head? hclose)) h
    | stuck => exact run_of_stuck hstep
    | moved next =>
      have hle : machine.position ≤ next.position := by
        obtain ⟨_, hlt | ⟨hsame, _⟩⟩ := step_advances hstep
        · exact hlt.le
        · exact hsame.ge
      have hlighter := remaining_lt_of_step hstep
      rw [run_of_moved hstep]
      exact ih _ (hweight ▸ hlighter) (fun hnext => h (mayClose_of_le hle hnext)) rfl

/-- From scratch the machine reads the tag that is opened at the end of the tag name. -/
theorem TagMachine.run_opened (text : Text) (start : Nat) :
    run text (opened text start (tagNameEnd text start)) = tagAt? text start := by
  have hname : text.slice (start + 1) (tagNameEnd text start) =
      (text.drop (start + 1)).takeWhile (!endsTagName ·) :=
    Text.slice_of_drop List.takeWhile_append_dropWhile.symm rfl
  rw [opened, hname]
  rfl

end TemplateAudit
