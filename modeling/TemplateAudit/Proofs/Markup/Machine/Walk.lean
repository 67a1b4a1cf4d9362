import TemplateAudit.Proofs.Markup.Machine.Tag
import TemplateAudit.Proofs.Markup.Memory

namespace TemplateAudit

namespace TagMachine

theorem start_lt_stop_of_tagAt? {text : Text} {start : Nat} {tag : Tag}
    (h : tagAt? text start = some tag) : start < tag.stop := by
  rw [tagAt?_eq_read?, Option.map_eq_some_iff] at h
  obtain ⟨⟨written, _⟩, _, rfl⟩ := h
  have hpos := written.length_text_pos
  show start < start + written.text.length
  omega

/-- The start tags whose `<` stands at `position` or later. -/
def tagsFrom (text : Text) (position : Nat) : List Tag :=
  match _hopen : text.indexFrom? ['<'] position with
  | none => []
  | some start =>
    if ("<!--" : Text).isPrefixOf (text.drop start) then
      match _hclose : text.indexFrom? "-->" (start + 4) with
      | none => []
      | some close => tagsFrom text (close + 3)
    else
      match text[start + 1]? with
      | none => tagsFrom text (start + 1)
      | some next =>
        if next = '/' ∨ next = '!' ∨ next = '?' then
          match _hclose : text.indexFrom? ['>'] (start + 2) with
          | none => []
          | some close => tagsFrom text (close + 1)
        else if next.isAlpha then
          match _htag : tagAt? text start with
          | none => tagsFrom text (start + 1)
          | some tag => tag :: tagsFrom text tag.stop
        else tagsFrom text (start + 1)
termination_by text.length - position
decreasing_by
  all_goals
    have hopen := Text.indexFrom?_bounds (by assumption : text.indexFrom? ['<'] position = some start)
    simp only [List.length_singleton] at hopen
  · have hclose := Text.indexFrom?_bounds (by assumption)
    omega
  · omega
  · have hclose := Text.indexFrom?_bounds (by assumption)
    omega
  · omega
  · have hstop := start_lt_stop_of_tagAt? (by assumption)
    omega
  · omega

/-- What the walk does at a `<`. -/
def tagsAtOpen (text : Text) (start : Nat) : List Tag :=
  if ("<!--" : Text).isPrefixOf (text.drop start) then
    match text.indexFrom? "-->" (start + 4) with
    | none => []
    | some close => tagsFrom text (close + 3)
  else
    match text[start + 1]? with
    | none => tagsFrom text (start + 1)
    | some next =>
      if next = '/' ∨ next = '!' ∨ next = '?' then
        match text.indexFrom? ['>'] (start + 2) with
        | none => []
        | some close => tagsFrom text (close + 1)
      else if next.isAlpha then
        match tagAt? text start with
        | none => tagsFrom text (start + 1)
        | some tag => tag :: tagsFrom text tag.stop
      else tagsFrom text (start + 1)

/-- The walk goes on at the next `<`, and is over if there is none. -/
theorem tagsFrom_eq_open (text : Text) (position : Nat) :
    tagsFrom text position =
      match text.indexFrom? ['<'] position with
      | none => []
      | some start => tagsAtOpen text start := by
  rw [tagsFrom]
  split
  · next hopen => rw [hopen]
  · next start hopen =>
    rw [hopen]
    simp only [tagsAtOpen]
    split
    · split <;> next hclose => rw [hclose]
    split
    · rfl
    split
    · split <;> next hclose => rw [hclose]
    split
    · split <;> next htag => rw [htag]
    · rfl

theorem tagsFrom_of_open {text rest : Text} {position : Nat} (h : text.drop position = '<' :: rest) :
    tagsFrom text position = tagsAtOpen text position := by
  have hindex : text.indexFrom? ['<'] position = some position := by
    rw [Text.indexFrom?, h]
    rfl
  rw [tagsFrom_eq_open, hindex]

/-- Any other character is left behind. -/
theorem tagsFrom_of_other {text rest : Text} {position : Nat} {c : Char}
    (h : text.drop position = c :: rest) (hc : c ≠ '<') :
    tagsFrom text position = tagsFrom text (position + 1) := by
  have hindex : text.indexFrom? ['<'] position = text.indexFrom? ['<'] (position + 1) := by
    rw [Text.indexFrom?, Text.indexFrom?, h, (Text.drop_eq_cons h).2, Text.splitAtFirst?,
      if_neg (by simpa [List.isPrefixOf] using hc.symm), Option.map_map]
    congr 1
    funext parts
    simp only [Function.comp_apply, List.length_cons]
    omega
  rw [tagsFrom_eq_open, hindex, ← tagsFrom_eq_open]

/-- At a `<` that is not the last character both walks come to the same stop. -/
theorem tagsAtOpen_eq_stop {text rest : Text} {start : Nat} {next : Char}
    (h : text.drop start = '<' :: next :: rest) :
    tagsAtOpen text start =
      match Stop.of (text.drop start) with
      | .finish => []
      | .advance count => tagsFrom text (start + count)
      | .tryTag =>
        match tagAt? text start with
        | none => tagsFrom text (start + 1)
        | some tag => tag :: tagsFrom text tag.stop := by
  have hafter := (Text.drop_eq_cons h).2
  obtain ⟨hnext, hrest⟩ := Text.drop_eq_cons hafter
  have hopen : ¬ ('<' != '<') = true := by decide
  have hcommentStart : ("<!--" : Text).isPrefixOf ('<' :: next :: rest) =
      ("!--" : Text).isPrefixOf (next :: rest) := rfl
  rw [tagsAtOpen, h, Stop.of, if_neg hopen, hcommentStart, hnext]
  by_cases hcomment : ("!--" : Text).isPrefixOf (next :: rest) = true
  · have hbody : text.drop (start + 4) = rest.drop 2 := by
      rw [← hrest, List.drop_drop]
    rw [if_pos hcomment, if_pos hcomment, Text.indexFrom?, hbody]
    cases Text.splitAtFirst? "-->" (rest.drop 2) with
    | none => rfl
    | some parts =>
      simp only [Option.map_some, Nat.add_assoc]
  rw [if_neg hcomment, if_neg hcomment]
  by_cases hdeclaration : next = '/' ∨ next = '!' ∨ next = '?'
  · have hmarked : (next == '/' || next == '!' || next == '?') = true := by
      simpa [or_assoc] using hdeclaration
    simp only [if_pos hdeclaration, if_pos hmarked, Text.indexFrom?, hrest,
      Text.splitAtFirst?_singleton]
    cases rest.dropWhile (· != '>') with
    | nil => rfl
    | cons close after => simp only [Option.map_some, Nat.add_assoc]
  · have hmarked : ¬ (next == '/' || next == '!' || next == '?') = true := by
      simpa [or_assoc] using hdeclaration
    simp only [if_neg hdeclaration, if_neg hmarked]
    by_cases hletter : next.isAlpha = true
    · simp only [if_pos hletter]
    · simp only [if_neg hletter]

/-- The plain scanner finds the tags of the walk that reads item by item. -/
theorem tagsFrom_eq_tagsBy (text : Text) (position : Nat) :
    tagsFrom text position = tagsBy plainReader () position (text.drop position) := by
  induction hlength : text.length - position using Nat.strong_induction_on generalizing position with
  | h length ih =>
    have hlater (i : Nat) (hinside : position < text.length) (hi : position < i) :
        tagsFrom text i = tagsBy plainReader () i (text.drop i) := ih _ (by omega) i rfl
    cases htext : text.drop position with
    | nil =>
      have hindex : text.indexFrom? ['<'] position = none := by
        rw [Text.indexFrom?, htext]
        rfl
      rw [tagsFrom_eq_open, hindex, tagsBy]
    | cons c rest =>
      obtain ⟨hget, hrest⟩ := Text.drop_eq_cons htext
      have hinside : position < text.length := (List.getElem?_eq_some_iff.mp hget).1
      have hdrop (count : Nat) : text.drop (position + count) = (c :: rest).drop count := by
        rw [← List.drop_drop, htext]
      by_cases hopen : c = '<'
      · subst hopen
        cases rest with
        | nil =>
          have hnext : text[position + 1]? = none := by rw [← List.head?_drop, hrest, List.head?_nil]
          have hcomment : ¬ ("<!--" : Text).isPrefixOf ['<'] = true := by decide
          rw [tagsFrom_of_open htext, tagsAtOpen, htext, if_neg hcomment, hnext]
          simp only [hlater (position + 1) hinside (by omega), hrest, tagsBy]
        | cons next rest =>
          rw [tagsFrom_of_open htext, tagsAtOpen_eq_stop htext, tagsBy_eq_stop, htext]
          cases hstop : Stop.of ('<' :: next :: rest) with
          | finish => rfl
          | advance count =>
            have hpos := (Stop.advance_bounds hstop).1
            simp only
            rw [hlater _ hinside (by omega), hdrop]
          | tryTag =>
            simp only [tagAt?_eq_read?, hrest, plainReader, List.tail_cons]
            cases WrittenTag.read? (next :: rest) with
            | none =>
              simp only [Option.map_none]
              rw [hlater _ hinside (by omega), hrest]
            | some found =>
              obtain ⟨tag, after⟩ := found
              have hpos := tag.length_text_pos
              simp only [Option.map_some, WrittenTag.locate]
              rw [hlater _ hinside (by omega), hdrop]
      · rw [tagsFrom_of_other htext hopen, hlater _ hinside (by omega), hrest]
        cases rest with
        | nil => rw [tagsBy, tagsBy]
        | cons next rest =>
          have hstop : Stop.of (c :: next :: rest) = .advance 1 := by
            rw [Stop.of, if_pos (by simpa using hopen)]
          rw [tagsBy_eq_stop plainReader () position, hstop]
          rfl

/-- The start tags of a text with one of the given names in any letter case; all of them if no names are
    given. -/
def tags (text : Text) (names : Option (List Text)) : List Tag :=
  (tagsFrom text 0).filter fun tag =>
    names.all fun names => names.any fun name => name.lower == tag.name

end TagMachine

/-- The quick scanner, with all it remembers and skips, gives exactly the tags of the plain scanner. -/
theorem scanTags_eq_plain_scanner (text : Text) (names : Option (List Text)) :
    scanTags text names = TagMachine.tags text names := by
  have hall : quickTags text = TagMachine.tagsFrom text 0 := by
    rw [quickTags_eq_plainTags, TagMachine.tagsFrom_eq_tagsBy, List.drop_zero, plainTags]
  cases names with
  | none =>
    rw [TagMachine.tags, ← hall, scanTags]
    exact (List.filter_eq_self.mpr fun _ _ => rfl).symm
  | some names =>
    rw [TagMachine.tags, ← hall, scanTags]
    apply List.filter_congr
    intro tag _
    rw [Bool.eq_iff_iff]
    simp only [List.contains_iff_mem, List.mem_map, Option.all_some, List.any_eq_true, beq_iff_eq]

end TemplateAudit
