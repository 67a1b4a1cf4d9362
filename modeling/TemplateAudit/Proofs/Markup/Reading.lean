import TemplateAudit.Proofs.Markup.Grammar

namespace TemplateAudit

/-- A value that is read spells the start of the text and ends where a value must. -/
theorem WrittenValue.fits_of_read? {text rest : Text} {value : WrittenValue}
    (hhead : ∀ c ∈ text.head?, isBlank c = false)
    (hread : WrittenValue.read? text = some (value, rest)) :
    text = value.text ++ rest ∧ value.Fits rest := by
  cases text with
  | nil => simp [WrittenValue.read?] at hread
  | cons c text =>
    simp only [WrittenValue.read?] at hread
    by_cases hquote : isQuote c = true
    · rw [if_pos hquote] at hread
      obtain ⟨_, hdrop⟩ | ⟨after, hdrop, hsplit, hnotMem⟩ := Text.search_cases c text
      · simp [hdrop] at hread
      · simp only [hdrop, Option.some.injEq, Prod.mk.injEq] at hread
        obtain ⟨rfl, rfl⟩ := hread
        refine ⟨?_, isQuote_iff.mp hquote, hnotMem⟩
        simp only [WrittenValue.text, List.cons_append, List.append_assoc, List.nil_append]
        rw [← hsplit]
    · rw [if_neg hquote, not_endsBareValue] at hread
      simp only [Option.some.injEq, Prod.mk.injEq] at hread
      obtain ⟨rfl, rfl⟩ := hread
      refine ⟨by simp [WrittenValue.text], ?_⟩
      have hrun := Text.isLongestRun_takeWhile staysInBareValue (c :: text)
      have hblank := hhead c rfl
      by_cases hclose : c = '>'
      · subst c
        simp [WrittenValue.Fits, staysInBareValue]
      · have hstays : staysInBareValue c = true := by simp [staysInBareValue, hblank, hclose]
        rw [isQuote_iff, not_or] at hquote
        rw [List.takeWhile_cons_of_pos hstays] at hrun ⊢
        exact ⟨hquote.1, hquote.2, hrun⟩

/-- A value that ends where a value must is read. -/
theorem WrittenValue.Fits.read? {rest : Text} {value : WrittenValue} (h : value.Fits rest) :
    WrittenValue.read? (value.text ++ rest) = some (value, rest) := by
  cases value with
  | quoted mark body =>
    have hquote : isQuote mark = true := isQuote_iff.mpr h.1
    have hrun := Text.isLongestRun_search h.2 rest
    simp [WrittenValue.text, WrittenValue.read?, hquote, hrun.dropWhile_eq, hrun.takeWhile_eq]
  | bare body =>
    cases body with
    | nil =>
      obtain ⟨rest, rfl⟩ := List.head?_eq_some_iff.mp h
      simp [WrittenValue.text, WrittenValue.read?, isQuote, endsBareValue]
    | cons first body =>
      obtain ⟨hsingle, hdouble, hrun⟩ := h
      have hquote : ¬ isQuote first = true := by simp [isQuote_iff, hsingle, hdouble]
      have htake := hrun.takeWhile_eq
      have hdrop := hrun.dropWhile_eq
      rw [List.cons_append] at htake hdrop
      simp only [WrittenValue.text, List.cons_append, WrittenValue.read?, if_neg hquote,
        not_endsBareValue, htake, hdrop]

/-- A value starts with a character that is not blank, or stands right before `>`. -/
theorem WrittenValue.Fits.head_not_blank {rest : Text} {value : WrittenValue} (h : value.Fits rest) :
    ∀ c ∈ (value.text ++ rest).head?, isBlank c = false := by
  intro c hc
  cases value with
  | quoted mark body =>
    obtain rfl : mark = c := by simpa [WrittenValue.text] using hc
    exact not_isBlank_of_isQuote (isQuote_iff.mpr h.1)
  | bare body =>
    cases body with
    | nil =>
      have hclose : rest.head? = some '>' := h
      simp only [WrittenValue.text, List.nil_append, hclose] at hc
      obtain rfl : '>' = c := by simpa using hc
      decide
    | cons first body =>
      obtain rfl : first = c := by simpa [WrittenValue.text] using hc
      have hstays := h.2.2.1 first List.mem_cons_self
      simp only [staysInBareValue, Bool.and_eq_true, Bool.not_eq_true'] at hstays
      exact hstays.1

/-- What is read behind a name spells the start of the text and ends where it must. -/
theorem Assignment.fits_of_read? {text rest : Text} {assignment : Option Assignment}
    (hread : Assignment.read? text = some (assignment, rest)) :
    text = Assignment.spelling assignment ++ rest ∧ Assignment.Fits assignment rest := by
  have hsplit := List.takeWhile_append_dropWhile (p := isBlank) (l := text)
  have hbefore := (Text.isLongestRun_takeWhile isBlank text).1
  unfold Assignment.read? at hread
  split at hread
  · next inner hinner =>
    have hinnerSplit := List.takeWhile_append_dropWhile (p := isBlank) (l := inner)
    have hafter := Text.isLongestRun_takeWhile isBlank inner
    split at hread
    · next value remaining hvalue =>
      obtain ⟨htext, hfits⟩ := WrittenValue.fits_of_read? hafter.2 hvalue
      simp only [Option.some.injEq, Prod.mk.injEq] at hread
      obtain ⟨rfl, rfl⟩ := hread
      refine ⟨?_, hbefore, hafter.1, hfits⟩
      simp only [Assignment.spelling, Assignment.text, List.append_assoc, List.cons_append]
      rw [← htext, hinnerSplit, ← hinner, hsplit]
    · simp at hread
  · next hnext =>
    simp only [Option.some.injEq, Prod.mk.injEq] at hread
    obtain ⟨rfl, rfl⟩ := hread
    refine ⟨rfl, ?_⟩
    intro hfind
    rw [List.find?_not_eq_head?_dropWhile] at hfind
    obtain ⟨inner, hinner⟩ := List.head?_eq_some_iff.mp hfind
    exact hnext inner hinner

/-- What may follow a name is read there. -/
theorem Assignment.Fits.read? {rest : Text} {assignment : Option Assignment}
    (h : Assignment.Fits assignment rest) :
    Assignment.read? (Assignment.spelling assignment ++ rest) = some (assignment, rest) := by
  cases assignment with
  | none =>
    have hnext : ∀ inner, rest.dropWhile isBlank ≠ '=' :: inner := by
      intro inner hinner
      apply h
      rw [List.find?_not_eq_head?_dropWhile, hinner, List.head?_cons]
    simp only [Assignment.spelling, List.nil_append, Assignment.read?]
  | some assignment =>
    obtain ⟨hbefore, hafter, hvalue⟩ := h
    have hbeforeRun : Text.IsLongestRun isBlank assignment.before
        ('=' :: (assignment.after ++ (assignment.value.text ++ rest))) := by
      refine ⟨hbefore, fun c hc => ?_⟩
      obtain rfl : '=' = c := by simpa using hc
      decide
    have hafterRun : Text.IsLongestRun isBlank assignment.after (assignment.value.text ++ rest) :=
      ⟨hafter, hvalue.head_not_blank⟩
    have hspelling : Assignment.spelling (some assignment) ++ rest =
        assignment.before ++ '=' :: (assignment.after ++ (assignment.value.text ++ rest)) := by
      simp [Assignment.spelling, Assignment.text]
    rw [hspelling, Assignment.read?]
    simp only [hbeforeRun.dropWhile_eq, hbeforeRun.takeWhile_eq, hafterRun.dropWhile_eq,
      hafterRun.takeWhile_eq, hvalue.read?]

/-- An item that is read spells the start of the text and ends where an item must. -/
theorem TagItem.fits_of_read? {text rest : Text} {item : TagItem}
    (hhead : text.head? ≠ some '>') (hread : TagItem.read? text = some (item, rest)) :
    text = item.text ++ rest ∧ item.Fits rest := by
  cases text with
  | nil => simp [TagItem.read?] at hread
  | cons c text =>
    simp only [TagItem.read?] at hread
    by_cases hblank : isBlank c = true
    · simp only [if_pos hblank, Option.some.injEq, Prod.mk.injEq] at hread
      obtain ⟨rfl, rfl⟩ := hread
      exact ⟨rfl, hblank⟩
    by_cases hslash : c = '/'
    · simp only [if_neg hblank, if_pos hslash, Option.some.injEq, Prod.mk.injEq] at hread
      obtain ⟨rfl, rfl⟩ := hread
      exact ⟨by rw [hslash]; rfl, trivial⟩
    · rw [if_neg hblank, if_neg hslash, not_endsAttributeName] at hread
      have hrun := Text.isLongestRun_takeWhile staysInAttributeName text
      have hsplit := List.takeWhile_append_dropWhile (p := staysInAttributeName) (l := text)
      split at hread
      · next assignment remaining hassign =>
        obtain ⟨htext, hfits⟩ := Assignment.fits_of_read? hassign
        simp only [Option.some.injEq, Prod.mk.injEq] at hread
        obtain ⟨rfl, rfl⟩ := hread
        have hfirst : staysInTagName c = true := by
          have hclose : c ≠ '>' := by simpa using hhead
          simp [staysInTagName, hblank, hslash, hclose]
        rw [htext] at hrun
        refine ⟨?_, hfirst, hrun, hfits⟩
        rw [TagItem.text_attribute, List.append_assoc, ← htext, List.cons_append, hsplit]
      · simp at hread

/-- An item that ends where an item must is read. -/
theorem TagItem.Fits.read? {rest : Text} {item : TagItem} (h : item.Fits rest) :
    TagItem.read? (item.text ++ rest) = some (item, rest) := by
  match item, h with
  | .blank c, (hblank : isBlank c = true) => simp [TagItem.text, TagItem.read?, hblank]
  | .slash, _ =>
    have hblank : isBlank '/' = false := by decide
    simp [TagItem.text, TagItem.read?, hblank]
  | .attribute (first :: name) assignment, ⟨hfirst, hrun, hassign⟩ =>
    simp only [staysInTagName, Bool.and_eq_true, Bool.not_eq_true', bne_iff_ne] at hfirst
    obtain ⟨⟨hblank, hslash⟩, _⟩ := hfirst
    rw [TagItem.text_attribute, List.append_assoc, List.cons_append, TagItem.read?]
    simp only [hblank, hslash, Bool.false_eq_true, if_false, not_endsAttributeName,
      hrun.dropWhile_eq, hrun.takeWhile_eq, hassign.read?]

/-- What fits never starts with the closing `>`. -/
theorem TagItem.Fits.head_ne_close {rest : Text} {item : TagItem} (h : item.Fits rest) :
    ∃ c tail, item.text = c :: tail ∧ c ≠ '>' := by
  match item, h with
  | .blank c, (hblank : isBlank c = true) =>
    refine ⟨c, [], rfl, ?_⟩
    rintro rfl
    exact absurd hblank (by decide)
  | .slash, _ => exact ⟨'/', [], rfl, by decide⟩
  | .attribute (first :: name) assignment, ⟨hfirst, _, _⟩ =>
    refine ⟨first, name ++ Assignment.spelling assignment, ?_, ?_⟩
    · rw [TagItem.text_attribute, List.cons_append]
    · rintro rfl
      exact absurd hfirst (by decide)

theorem TagItem.readAll?_close (rest : Text) : TagItem.readAll? ('>' :: rest) = some ([], rest) := by
  rw [TagItem.readAll?]
  simp

theorem TagItem.readAll?_of_unreadable {text : Text} (hhead : text.head? ≠ some '>')
    (hread : TagItem.read? text = none) : TagItem.readAll? text = none := by
  cases text with
  | nil => rw [TagItem.readAll?]
  | cons c text =>
    have hclose : c ≠ '>' := by simpa using hhead
    rw [TagItem.readAll?, if_neg hclose]
    split
    · rfl
    · next hsome => simp [hread] at hsome

theorem TagItem.readAll?_of_readable {text rest : Text} {item : TagItem}
    (hhead : text.head? ≠ some '>') (hread : TagItem.read? text = some (item, rest)) :
    TagItem.readAll? text =
      (TagItem.readAll? rest).map fun (items, after) => (item :: items, after) := by
  cases text with
  | nil => simp [TagItem.read?] at hread
  | cons c text =>
    have hclose : c ≠ '>' := by simpa using hhead
    rw [TagItem.readAll?, if_neg hclose]
    split
    · next hnone => simp [hread] at hnone
    · next hsome =>
      rw [hread] at hsome
      cases hsome
      rfl

/-- Nothing behind a text that holds the closing `>` decides what fits before it. -/
theorem TagItem.fits_append_iff {item : TagItem} {rest : Text} (hclose : '>' ∈ rest)
    (after : Text) : item.Fits (rest ++ after) ↔ item.Fits rest := by
  have hne : rest ≠ [] := List.ne_nil_of_mem hclose
  have hfind : (rest ++ after).find? (!isBlank ·) = rest.find? (!isBlank ·) := by
    have hsome : (rest.find? (!isBlank ·)).isSome = true :=
      List.find?_isSome.mpr ⟨'>', hclose, by decide⟩
    rw [List.find?_append, Option.or_of_isSome hsome]
  have hvalue (value : WrittenValue) : value.Fits (rest ++ after) ↔ value.Fits rest := by
    match value with
    | .quoted mark body => rfl
    | .bare [] =>
      obtain ⟨c, rest, rfl⟩ := List.exists_cons_of_ne_nil hne
      rfl
    | .bare (first :: body) => simp only [WrittenValue.Fits, Text.isLongestRun_append_iff hne]
  match item with
  | .blank c => rfl
  | .slash => rfl
  | .attribute [] assignment => rfl
  | .attribute (first :: name) none =>
    simp only [TagItem.Fits, Assignment.Fits, Assignment.spelling, List.nil_append, hfind,
      Text.isLongestRun_append_iff hne]
  | .attribute (first :: name) (some assignment) =>
    have hspelling : Assignment.spelling (some assignment) ++ rest ≠ [] := by simp [hne]
    simp only [TagItem.Fits, Assignment.Fits, hvalue, ← List.append_assoc,
      Text.isLongestRun_append_iff hspelling]

/-- The items that are read spell what is read. -/
theorem TagItem.spell_of_readAll? {text after : Text} {items : List TagItem}
    (hread : TagItem.readAll? text = some (items, after)) :
    ∃ body, text = body ++ after ∧ TagItem.Spell items body := by
  fun_induction TagItem.readAll? text generalizing items with
  | case1 => simp at hread
  | case2 rest =>
    simp only [Option.some.injEq, Prod.mk.injEq] at hread
    obtain ⟨rfl, rfl⟩ := hread
    exact ⟨['>'], rfl, .close⟩
  | case3 => simp at hread
  | case4 c rest hc item remaining hitem ih =>
    simp only [Option.map_eq_some_iff, Prod.exists, Prod.mk.injEq] at hread
    obtain ⟨later, _, hlater, rfl, rfl⟩ := hread
    obtain ⟨body, rfl, hbody⟩ := ih hlater
    obtain ⟨htext, hfits⟩ := TagItem.fits_of_read? (by simpa using hc) hitem
    refine ⟨item.text ++ body, by rw [htext, List.append_assoc], .item ?_ hbody⟩
    exact (TagItem.fits_append_iff hbody.close_mem _).mp hfits

/-- The items that a text spells are read from it, whatever follows. -/
theorem TagItem.Spell.readAll? {items : List TagItem} {body : Text} (h : TagItem.Spell items body)
    (after : Text) : TagItem.readAll? (body ++ after) = some (items, after) := by
  induction h with
  | close => exact TagItem.readAll?_close after
  | @item item items rest hitem hitems ih =>
    have hfits := (TagItem.fits_append_iff hitems.close_mem after).mpr hitem
    obtain ⟨c, tail, htext, hc⟩ := hitem.head_ne_close
    have hhead : (item.text ++ (rest ++ after)).head? ≠ some '>' := by simpa [htext] using hc
    rw [List.append_assoc, TagItem.readAll?_of_readable hhead hfits.read?, ih]
    rfl

/-- Reading a start tag finds its derivation, whatever follows the tag. -/
theorem WrittenTag.read?_eq_some_iff {text after : Text} {tag : WrittenTag} :
    WrittenTag.read? text = some (tag, after) ↔
      ∃ written, '<' :: text = written ++ after ∧ tag.Spells written := by
  rw [WrittenTag.read?, not_endsTagName]
  constructor
  · intro hread
    simp only [Option.map_eq_some_iff, Prod.exists, Prod.mk.injEq] at hread
    obtain ⟨items, _, hitems, rfl, rfl⟩ := hread
    obtain ⟨body, hbody, hspell⟩ := TagItem.spell_of_readAll? hitems
    have hrun := Text.isLongestRun_takeWhile staysInTagName text
    have hsplit := List.takeWhile_append_dropWhile (p := staysInTagName) (l := text)
    rw [hbody] at hrun hsplit
    refine ⟨_, ?_, body, rfl, ?_, hspell⟩
    · rw [List.cons_append, List.append_assoc, hsplit]
    · exact (Text.isLongestRun_append_iff (List.ne_nil_of_mem hspell.close_mem) _).mp hrun
  · rintro ⟨_, htext, body, rfl, hname, hspell⟩
    have hrun := (Text.isLongestRun_append_iff (List.ne_nil_of_mem hspell.close_mem) after).mpr hname
    obtain rfl : text = tag.name ++ (body ++ after) := by simpa using htext
    rw [hrun.dropWhile_eq, hrun.takeWhile_eq, hspell.readAll?]
    rfl

theorem WrittenTag.text_of_read? {text after : Text} {tag : WrittenTag}
    (h : WrittenTag.read? text = some (tag, after)) : '<' :: text = tag.text ++ after := by
  obtain ⟨written, htext, hspells⟩ := WrittenTag.read?_eq_some_iff.mp h
  rw [htext, hspells.eq_text]

/-- A text begins with at most one start tag, and that has only one derivation. -/
theorem WrittenTag.Spells.unique {tag tag' : WrittenTag} {written written' after after' : Text}
    (h : tag.Spells written) (h' : tag'.Spells written')
    (htext : written ++ after = written' ++ after') : tag = tag' ∧ written = written' := by
  have hstart : '<' :: (written ++ after).tail = written ++ after := by
    obtain ⟨body, rfl, _⟩ := h
    rfl
  have hread := WrittenTag.read?_eq_some_iff.mpr ⟨written, hstart, h⟩
  have hread' := WrittenTag.read?_eq_some_iff.mpr ⟨written', hstart.trans htext, h'⟩
  rw [hread] at hread'
  cases hread'
  exact ⟨rfl, List.append_cancel_right htext⟩

end TemplateAudit
