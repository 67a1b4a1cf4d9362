import TemplateAudit.Proofs.Markup.Walk

namespace TemplateAudit

/-- A needle without `>` does not reach past a text that has one. -/
theorem Text.isPrefixOf_append_of_close {needle text : Text} (hneedle : '>' ∉ needle)
    (htext : '>' ∈ text) (tail : Text) :
    needle.isPrefixOf (text ++ tail) = needle.isPrefixOf text := by
  rw [Bool.eq_iff_iff, List.isPrefixOf_iff_prefix, List.isPrefixOf_iff_prefix]
  constructor
  · intro hprefix
    obtain h | h := List.prefix_or_prefix_of_prefix hprefix (List.prefix_append text tail)
    · exact h
    · exact absurd (h.subset htext) hneedle
  · intro hprefix
    exact hprefix.trans (List.prefix_append text tail)

/-- What ends in `>` cannot reach into text without `>`. -/
theorem Text.prefix_of_prefix_append {stem text tail : Text} (htail : '>' ∉ tail)
    (h : stem ++ ['>'] <+: text ++ tail) : stem ++ ['>'] <+: text := by
  obtain hshort | hlong := List.prefix_or_prefix_of_prefix h (List.prefix_append text tail)
  · exact hshort
  · obtain ⟨extra, hextra⟩ := hlong
    rw [← hextra, List.prefix_append_right_inj] at h
    obtain rfl | ⟨init, last, rfl⟩ := List.eq_nil_or_concat extra
    · rw [List.append_nil] at hextra
      exact ⟨[], by rw [List.append_nil, hextra]⟩
    · rw [List.concat_eq_append, ← List.append_assoc] at hextra
      obtain rfl : last = '>' := by simpa using (List.append_inj' hextra rfl).2
      exact absurd (h.subset (by simp)) htail

/-- A search for something that ends in `>` is not misled by text without `>`. -/
theorem Text.splitAtFirst?_append {stem tail : Text} (htail : '>' ∉ tail) (text : Text) :
    Text.splitAtFirst? (stem ++ ['>']) (text ++ tail) =
      (Text.splitAtFirst? (stem ++ ['>']) text).map fun (before, after) => (before, after ++ tail) := by
  induction text with
  | nil =>
    have hnone : Text.splitAtFirst? (stem ++ ['>']) tail = none := by
      cases hsplit : Text.splitAtFirst? (stem ++ ['>']) tail with
      | none => rfl
      | some parts =>
        have htext := Text.append_of_splitAtFirst? hsplit
        exact absurd (by rw [htext]; simp) htail
    simp [hnone, Text.splitAtFirst?]
  | cons c text ih =>
    have hprefix : (stem ++ ['>']).isPrefixOf (c :: text ++ tail) =
        (stem ++ ['>']).isPrefixOf (c :: text) := by
      rw [Bool.eq_iff_iff, List.isPrefixOf_iff_prefix, List.isPrefixOf_iff_prefix]
      exact ⟨Text.prefix_of_prefix_append htail, fun h => h.trans (List.prefix_append _ _)⟩
    rw [List.cons_append, Text.splitAtFirst?, Text.splitAtFirst?, ← List.cons_append, hprefix]
    split
    · next hfound =>
      have hlength := (List.isPrefixOf_iff_prefix.mp hfound).length_le
      rw [List.drop_append_of_le_length hlength]
      rfl
    · rw [ih, Option.map_map, Option.map_map]
      rfl

/-- The search for a character that a text has does not see what follows the text. -/
theorem Text.search_append {mark : Char} {text : Text} (h : mark ∈ text) (tail : Text) :
    (text ++ tail).takeWhile (· != mark) = text.takeWhile (· != mark) ∧
      ∃ after, text.dropWhile (· != mark) = mark :: after ∧
        (text ++ tail).dropWhile (· != mark) = mark :: (after ++ tail) := by
  obtain ⟨hnotMem, _⟩ | ⟨after, hdrop, hsplit, hnotMem⟩ := Text.search_cases mark text
  · exact absurd h hnotMem
  · have hrun := Text.isLongestRun_search hnotMem (after ++ tail)
    have htext : text ++ tail = text.takeWhile (· != mark) ++ mark :: (after ++ tail) := by
      rw [← List.cons_append, ← List.append_assoc, ← hsplit]
    refine ⟨?_, after, hdrop, ?_⟩
    · rw [htext]
      exact hrun.takeWhile_eq
    · rw [htext]
      exact hrun.dropWhile_eq

/-- What the walk does at a place is not changed by a text without `>` behind the last `>`. -/
theorem Stop.of_append {text tail : Text} (hlength : 2 ≤ text.length)
    (hlast : text.getLast? = some '>') (htail : '>' ∉ tail) :
    Stop.of (text ++ tail) = Stop.of text := by
  match text with
  | c :: next :: rest =>
    have hclose : '>' ∈ next :: rest := by
      rw [List.getLast?_cons_cons] at hlast
      exact List.mem_of_getLast? hlast
    rw [List.cons_append, List.cons_append, Stop.of, Stop.of, ← List.cons_append,
      Text.isPrefixOf_append_of_close (by decide) hclose]
    split
    · rfl
    split
    · next hcomment =>
      have hlong := (List.isPrefixOf_iff_prefix.mp hcomment).length_le
      have hdrop : (rest ++ tail).drop 2 = rest.drop 2 ++ tail := by
        apply List.drop_append_of_le_length
        simpa using hlong
      rw [hdrop, show ("-->" : Text) = "--".toList ++ ['>'] from rfl, Text.splitAtFirst?_append htail]
      cases Text.splitAtFirst? ("--".toList ++ ['>']) (rest.drop 2) with
      | none => rfl
      | some parts => rfl
    split
    · next hdeclaration =>
      have hmem : '>' ∈ rest := by
        obtain hnext | hmem := List.mem_cons.mp hclose
        · rw [← hnext] at hdeclaration
          exact absurd hdeclaration (by decide)
        · exact hmem
      obtain ⟨htake, after, hdrop, hlonger⟩ := Text.search_append hmem tail
      rw [htake, hdrop, hlonger]
    · rfl

/-- A start tag is read from a text exactly when it is read from any longer one that adds no `>`. -/
theorem WrittenTag.read?_append {text tail : Text} (htail : '>' ∉ tail) :
    WrittenTag.read? (text ++ tail) =
      (WrittenTag.read? text).map fun (tag, after) => (tag, after ++ tail) := by
  apply Option.ext
  rintro ⟨tag, after⟩
  simp only [Option.map_eq_some_iff, Prod.exists, Prod.mk.injEq]
  constructor
  · intro hread
    obtain ⟨written, htext, hspells⟩ := WrittenTag.read?_eq_some_iff.mp hread
    have hprefix : written <+: '<' :: text := by
      have hlonger : written <+: '<' :: text ++ tail := ⟨after, htext.symm⟩
      rw [hspells.eq_text, WrittenTag.text, ← List.cons_append] at hlonger ⊢
      exact Text.prefix_of_prefix_append htail hlonger
    obtain ⟨shorter, hshorter⟩ := hprefix
    refine ⟨tag, shorter, WrittenTag.read?_eq_some_iff.mpr ⟨written, hshorter.symm, hspells⟩, rfl, ?_⟩
    rw [← List.cons_append, ← hshorter, List.append_assoc] at htext
    exact List.append_cancel_left htext
  · rintro ⟨_, shorter, hread, rfl, rfl⟩
    obtain ⟨written, htext, hspells⟩ := WrittenTag.read?_eq_some_iff.mp hread
    refine WrittenTag.read?_eq_some_iff.mpr ⟨written, ?_, hspells⟩
    rw [← List.append_assoc, ← htext, List.cons_append]

/-- A text without `>` has no tags. -/
theorem tagsBy_plainReader_of_no_close {text : Text} (h : '>' ∉ text) (offset : Nat) :
    tagsBy plainReader () offset text = [] := by
  induction hlength : text.length using Nat.strong_induction_on generalizing text offset with
  | h length ih =>
    rw [tagsBy_eq_stop]
    cases hstop : Stop.of text with
    | finish => rfl
    | advance count =>
      obtain ⟨hpos, hle⟩ := Stop.advance_bounds hstop
      exact ih _ (by simp only [List.length_drop]; omega) (fun hmem => h (List.mem_of_mem_drop hmem)) _ rfl
    | tryTag =>
      obtain ⟨c, rest, rfl, _⟩ := Stop.tryTag_text hstop
      have hnone : WrittenTag.read? (c :: rest) = none := by
        have hempty : WrittenTag.read? [] = none := by
          rw [WrittenTag.read?, List.dropWhile_nil, TagItem.readAll?]
          rfl
        have hrest : '>' ∉ c :: rest := fun hmem => h (List.mem_cons_of_mem _ hmem)
        rw [← List.nil_append (c :: rest), WrittenTag.read?_append hrest, hempty]
        rfl
      simp only [plainReader, List.tail_cons, hnone]
      subst hlength
      exact ih _ (by simp) (fun hmem => h (List.mem_cons_of_mem _ hmem)) _ rfl

/-- The walk with the plain reader finds nothing new in a tail without `>`. -/
theorem tagsBy_plainReader_append {text tail : Text} (hlast : ∀ c ∈ text.getLast?, c = '>')
    (htail : '>' ∉ tail) (offset : Nat) :
    tagsBy plainReader () offset (text ++ tail) = tagsBy plainReader () offset text := by
  induction hlength : text.length using Nat.strong_induction_on generalizing text offset with
  | h length ih =>
    match text with
    | [] =>
      rw [List.nil_append, tagsBy_plainReader_of_no_close htail,
        tagsBy_plainReader_of_no_close List.not_mem_nil]
    | [c] =>
      obtain rfl : c = '>' := hlast c rfl
      have hsingle : tagsBy plainReader () offset ['>'] = [] := by rw [tagsBy]
      rw [hsingle]
      cases tail with
      | nil => exact hsingle
      | cons d tail =>
        have hstop : Stop.of ('>' :: d :: tail) = .advance 1 := rfl
        rw [List.singleton_append, tagsBy_eq_stop, hstop]
        exact tagsBy_plainReader_of_no_close htail _
    | c :: next :: rest =>
      have hclose : (c :: next :: rest).getLast? = some '>' := by
        rw [List.getLast?_cons_cons] at hlast ⊢
        cases hget : (next :: rest).getLast? with
        | none => simp at hget
        | some last => rw [hlast last hget]
      have hsame := Stop.of_append (by simp) hclose htail
      have hdrop (count : Nat) : ∀ d ∈ ((c :: next :: rest).drop count).getLast?, d = '>' := by
        intro d hd
        rw [List.getLast?_drop] at hd
        split at hd
        · simp at hd
        · exact hlast d hd
      subst hlength
      rw [tagsBy_eq_stop, tagsBy_eq_stop plainReader () offset (c :: next :: rest), hsame]
      cases hstop : Stop.of (c :: next :: rest) with
      | finish => rfl
      | advance count =>
        obtain ⟨hpos, hle⟩ := Stop.advance_bounds hstop
        simp only [List.drop_append_of_le_length hle]
        exact ih _ (by rw [List.length_drop]; omega) (hdrop count) _ rfl
      | tryTag =>
        simp only [plainReader, List.cons_append, List.tail_cons]
        rw [← List.cons_append, WrittenTag.read?_append htail]
        cases hread : WrittenTag.read? (next :: rest) with
        | none => exact ih _ (by simp) (hdrop 1) _ rfl
        | some found =>
          obtain ⟨tag, after⟩ := found
          have hle : tag.text.length ≤ (c :: next :: rest).length := by
            have hlength := congrArg List.length (WrittenTag.text_of_read? hread)
            simp only [List.length_cons, List.length_append] at hlength ⊢
            omega
          have hpos := tag.length_text_pos
          simp only [Option.map_some, ← List.cons_append, List.drop_append_of_le_length hle]
          exact congrArg _ (ih _ (by rw [List.length_drop]; omega) (hdrop _) _ rfl)

/-- What is left off a text has no `>`, and what is left of it ends in one. -/
theorem throughLastClose_append (text : Text) :
    ∃ tail, text = throughLastClose text ++ tail ∧ '>' ∉ tail ∧
      ∀ c ∈ (throughLastClose text).getLast?, c = '>' := by
  obtain ⟨tail, hsplit, htail, hlast⟩ := Text.exists_dropWhileEnd (· != '>') text
  refine ⟨tail, hsplit, fun hmem => ?_, fun c hc => ?_⟩
  · simpa using htail _ hmem
  · simpa using hlast c hc

/-- No tag is lost by looking only as far as the last `>`. -/
theorem plainTags_throughLastClose (text : Text) :
    plainTags (throughLastClose text) = plainTags text := by
  obtain ⟨tail, htext, htail, hlast⟩ := throughLastClose_append text
  have hsame := tagsBy_plainReader_append hlast htail 0
  rw [← htext] at hsame
  exact hsame.symm

end TemplateAudit
