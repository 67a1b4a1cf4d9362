import TemplateAudit.Markup.Scan
import TemplateAudit.Proofs.Markup.Reading

namespace TemplateAudit

/-- What the walk does at the first character of a text. -/
inductive Stop where
  | finish
  | advance (count : Nat)
  | tryTag
deriving DecidableEq, Repr

/-- The stop at the first character of a text. -/
def Stop.of : Text → Stop
  | [] => .finish
  | [_] => .finish
  | c :: next :: rest =>
    if c != '<' then .advance 1
    else if ("!--" : Text).isPrefixOf (next :: rest) then
      match Text.splitAtFirst? "-->" (rest.drop 2) with
      | none => .finish
      | some (body, _) => .advance (4 + body.length + 3)
    else if next == '/' || next == '!' || next == '?' then
      match rest.dropWhile (· != '>') with
      | [] => .finish
      | _ :: _ => .advance (2 + (rest.takeWhile (· != '>')).length + 1)
    else if next.isAlpha then .tryTag
    else .advance 1

theorem Text.drop_takeWhile_length {keep : Char → Bool} {text after : Text} {c : Char}
    (h : text.dropWhile keep = c :: after) :
    text.drop ((text.takeWhile keep).length + 1) = after := by
  have hsplit := List.takeWhile_append_dropWhile (p := keep) (l := text)
  rw [h] at hsplit
  calc text.drop ((text.takeWhile keep).length + 1)
      = (text.takeWhile keep ++ c :: after).drop ((text.takeWhile keep).length + 1) := by rw [hsplit]
    _ = after := by simp

theorem Text.drop_of_splitAtFirst? {needle text before after : Text}
    (h : Text.splitAtFirst? needle text = some (before, after)) :
    text.drop (before.length + needle.length) = after := by
  rw [Text.append_of_splitAtFirst? h, ← List.length_append, List.drop_left]

theorem WrittenTag.length_text_pos (tag : WrittenTag) : 0 < tag.text.length := by
  rw [WrittenTag.text, List.length_cons]
  omega

/-- The walk is its stops. -/
theorem tagsBy_eq_stop {σ : Type} (read : TagReader σ) (memory : σ) (offset : Nat) (text : Text) :
    tagsBy read memory offset text =
      match Stop.of text with
      | .finish => []
      | .advance count => tagsBy read memory (offset + count) (text.drop count)
      | .tryTag =>
        match read memory offset text.tail with
        | (none, memory) => tagsBy read memory (offset + 1) text.tail
        | (some tag, memory) =>
          tag.locate offset
            :: tagsBy read memory (offset + tag.text.length) (text.drop tag.text.length) := by
  match text with
  | [] => rw [tagsBy, Stop.of]
  | [c] => rw [tagsBy, Stop.of]
  | c :: next :: rest =>
    rw [tagsBy, Stop.of]
    by_cases hopen : (c != '<') = true
    · simp only [if_pos hopen, List.drop_succ_cons, List.drop_zero]
    rw [if_neg hopen, if_neg hopen]
    by_cases hcomment : ("!--" : Text).isPrefixOf (next :: rest) = true
    · rw [if_pos hcomment, if_pos hcomment]
      split
      · next hsplit => simp only [hsplit]
      · next body after hsplit =>
        have hafter := Text.drop_of_splitAtFirst? hsplit
        rw [List.drop_drop] at hafter
        have hdrop : (c :: next :: rest).drop (4 + body.length + 3) = after := by
          have hcount : 4 + body.length + 3 = 2 + (body.length + ("-->" : Text).length) + 2 := by
            rw [show ("-->" : Text).length = 3 from rfl]
            omega
          rw [← hafter, hcount, List.drop_succ_cons, List.drop_succ_cons]
        simp only [hsplit, hdrop]
        simp only [Nat.add_assoc]
    rw [if_neg hcomment, if_neg hcomment]
    by_cases hdeclaration : (next == '/' || next == '!' || next == '?') = true
    · rw [if_pos hdeclaration, if_pos hdeclaration]
      split
      · next hdrop => simp only [hdrop]
      · next close after hdrop =>
        have hafter := Text.drop_takeWhile_length hdrop
        have hskip : (c :: next :: rest).drop (2 + (rest.takeWhile (· != '>')).length + 1) = after := by
          rw [← hafter, Nat.add_assoc, Nat.add_comm 2, List.drop_succ_cons, List.drop_succ_cons]
        simp only [hdrop, hskip]
        simp only [Nat.add_assoc]
    rw [if_neg hdeclaration, if_neg hdeclaration]
    by_cases hletter : next.isAlpha = true
    · simp only [if_pos hletter, List.tail_cons]
      rcases read memory offset (next :: rest) with ⟨found, memory⟩
      cases found with
      | none => rfl
      | some tag =>
        have hlength : tag.text.length = tag.text.length - 1 + 1 := by
          have hpos := tag.length_text_pos
          omega
        have hdrop : (c :: next :: rest).drop tag.text.length =
            (next :: rest).drop (tag.text.length - 1) := by
          rw [hlength, List.drop_succ_cons, Nat.add_sub_cancel]
        simp only [hdrop]
    · simp only [if_neg hletter, List.drop_succ_cons, List.drop_zero]

/-- The walk goes on, but never past the end of the text. -/
theorem Stop.advance_bounds {text : Text} {count : Nat} (h : Stop.of text = .advance count) :
    1 ≤ count ∧ count ≤ text.length := by
  match text with
  | [] => simp [Stop.of] at h
  | [c] => simp [Stop.of] at h
  | c :: next :: rest =>
    rw [Stop.of] at h
    simp only [List.length_cons]
    split at h
    · cases h
      omega
    split at h
    · split at h
      · simp at h
      · next body after hsplit =>
        have hlength := congrArg List.length (Text.append_of_splitAtFirst? hsplit)
        simp only [List.length_append, List.length_drop] at hlength
        rw [show ("-->" : Text).length = 3 from rfl] at hlength
        cases h
        omega
    split at h
    · split at h
      · simp at h
      · next close after hdrop =>
        have hlength := congrArg List.length (List.takeWhile_append_dropWhile (p := (· != '>')) (l := rest))
        rw [hdrop, List.length_append, List.length_cons] at hlength
        cases h
        omega
    split at h
    · simp at h
    · cases h
      omega

/-- A tag is tried at a `<` that a letter follows. -/
theorem Stop.tryTag_text {text : Text} (h : Stop.of text = .tryTag) :
    ∃ c rest, text = '<' :: c :: rest ∧ c.isAlpha = true := by
  match text with
  | [] => simp [Stop.of] at h
  | [c] => simp [Stop.of] at h
  | c :: next :: rest =>
    rw [Stop.of] at h
    split at h
    · simp at h
    next hopen =>
    split at h
    · split at h <;> simp at h
    split at h
    · split at h <;> simp at h
    split at h
    · next hletter =>
      obtain rfl : c = '<' := by simpa using hopen
      exact ⟨next, rest, rfl, hletter⟩
    · simp at h

/-- Two readers that agree at every `<`, as long as their memories stay related, find the same
    tags. The relation may depend on how far the walk has come. -/
theorem tagsBy_eq_of_simulation {σ τ : Type} {read : TagReader σ} {read' : TagReader τ} (whole : Text)
    (related : Nat → σ → τ → Prop)
    (hlater : ∀ {i j m m'}, i ≤ j → related i m m' → related j m m')
    (hread : ∀ {i m m'}, related i m m' →
      (read m i (whole.drop (i + 1))).1 = (read' m' i (whole.drop (i + 1))).1 ∧
        related (i + 1) (read m i (whole.drop (i + 1))).2 (read' m' i (whole.drop (i + 1))).2)
    {offset : Nat} {memory : σ} {memory' : τ} (hrelated : related offset memory memory') :
    tagsBy read memory offset (whole.drop offset) =
      tagsBy read' memory' offset (whole.drop offset) := by
  induction hlength : whole.length - offset using Nat.strong_induction_on
    generalizing offset memory memory' with
  | h length ih =>
    rw [tagsBy_eq_stop, tagsBy_eq_stop]
    cases hstop : Stop.of (whole.drop offset) with
    | finish => rfl
    | advance count =>
      obtain ⟨hpos, hle⟩ := Stop.advance_bounds hstop
      rw [List.length_drop] at hle
      simp only [List.drop_drop]
      exact ih _ (by omega) (hlater (by omega) hrelated) rfl
    | tryTag =>
      obtain ⟨c, rest, htext, _⟩ := Stop.tryTag_text hstop
      have hinside := congrArg List.length htext
      rw [List.length_drop, List.length_cons] at hinside
      obtain ⟨hsame, hnext⟩ := hread hrelated
      simp only [List.tail_drop, List.drop_drop]
      generalize read memory offset (whole.drop (offset + 1)) = outcome at hsame hnext ⊢
      generalize read' memory' offset (whole.drop (offset + 1)) = outcome' at hsame hnext ⊢
      obtain ⟨found, next⟩ := outcome
      obtain ⟨found', next'⟩ := outcome'
      obtain rfl : found = found' := hsame
      cases found with
      | none => exact ih _ (by omega) hnext rfl
      | some tag =>
        have hpos := tag.length_text_pos
        exact congrArg _ (ih _ (by omega) (hlater (by omega) hnext) rfl)

end TemplateAudit
