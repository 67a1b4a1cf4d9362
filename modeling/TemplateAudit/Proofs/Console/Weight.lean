import Mathlib
import TemplateAudit.Proofs.Console.StyledText

namespace TemplateAudit

namespace Console

/-- What a character counts. -/
def weight (c : Char) : Nat := if c = ':' ∨ c = '\\' then 10 else 1

def weightOf (text : Text) : Nat := (text.map weight).sum

theorem weight_pos (c : Char) : 0 < weight c := by
  unfold weight
  split <;> decide

@[simp]
theorem weightOf_nil : weightOf [] = 0 := rfl

@[simp]
theorem weightOf_cons (c : Char) (text : Text) : weightOf (c :: text) = weight c + weightOf text := by
  rw [weightOf, List.map_cons, List.sum_cons, weightOf]

@[simp]
theorem weightOf_append (text rest : Text) : weightOf (text ++ rest) = weightOf text + weightOf rest := by
  rw [weightOf, List.map_append, List.sum_append, weightOf, weightOf]

@[simp]
theorem weightOf_repeated (n : Nat) (c : Char) : weightOf (Text.repeated n c) = n * weight c := by
  rw [weightOf, Text.repeated, List.map_replicate, List.sum_replicate_nat]

/-- Some condition holds and a text is the other one, or it is lighter than that. -/
def OrLighter (kept : Prop) (shown meant : Text) : Prop :=
  kept ∧ shown = meant ∨ weightOf shown < weightOf meant

/-- A text is the other one or lighter. -/
abbrev NoHeavier (shown meant : Text) : Prop := OrLighter True shown meant

namespace OrLighter

variable {kept kept' : Prop} {shown meant shown' meant' : Text}

theorem weightOf_le (h : OrLighter kept shown meant) : weightOf shown ≤ weightOf meant := by
  obtain ⟨_, rfl⟩ | hlighter := h
  · exact Nat.le_refl _
  · exact Nat.le_of_lt hlighter

theorem imp (h : OrLighter kept shown meant) (himp : kept → kept') : OrLighter kept' shown meant :=
  Or.imp_left (And.imp_left himp) h

/-- A text that is the other one is not lighter. -/
theorem of_eq (h : OrLighter kept shown meant) (hsame : shown = meant) : kept := by
  obtain ⟨hkept, _⟩ | hlighter := h
  · exact hkept
  · exact absurd hlighter (hsame ▸ Nat.lt_irrefl _)

theorem trans (h : OrLighter kept shown meant) (h' : OrLighter kept' meant meant') :
    OrLighter (kept ∧ kept') shown meant' := by
  obtain ⟨hkept, rfl⟩ | hlighter := h
  · exact h'.imp fun hkept' => ⟨hkept, hkept'⟩
  · exact .inr (Nat.lt_of_lt_of_le hlighter h'.weightOf_le)

/-- Two pairs of texts make one, which is kept only if both are. -/
theorem append (h : OrLighter kept shown meant) (h' : OrLighter kept' shown' meant') :
    OrLighter (kept ∧ kept') (shown ++ shown') (meant ++ meant') := by
  have hle := h.weightOf_le
  have hle' := h'.weightOf_le
  obtain ⟨hkept, rfl⟩ | hlighter := h
  · obtain ⟨hkept', rfl⟩ | hlighter' := h'
    · exact .inl ⟨⟨hkept, hkept'⟩, rfl⟩
    · exact .inr (by simp only [weightOf_append]; omega)
  · exact .inr (by simp only [weightOf_append]; omega)

end OrLighter

namespace NoHeavier

theorem refl (text : Text) : NoHeavier text text := .inl ⟨trivial, rfl⟩

theorem trans {first second third : Text} (h : NoHeavier first second) (h' : NoHeavier second third) :
    NoHeavier first third := (OrLighter.trans h h').imp fun _ => trivial

theorem append {shown meant shown' meant' : Text} (h : NoHeavier shown meant) (h' : NoHeavier shown' meant') :
    NoHeavier (shown ++ shown') (meant ++ meant') := (OrLighter.append h h').imp fun _ => trivial

/-- A text from which characters are dropped is not heavier. -/
theorem of_sublist {shown meant : Text} (h : shown.Sublist meant) : NoHeavier shown meant := by
  induction h with
  | slnil => exact refl []
  | cons c h ih =>
    have hpos := weight_pos c
    have hle := ih.weightOf_le
    exact .inr (by simp only [weightOf_cons]; omega)
  | cons_cons c h ih => exact append (refl [c]) ih

/-- A text put together from pieces is not heavier if no piece is. -/
theorem flatMap {α : Type} {shown meant : α → Text} {items : List α}
    (h : ∀ item ∈ items, NoHeavier (shown item) (meant item)) :
    NoHeavier (items.flatMap shown) (items.flatMap meant) := by
  induction items with
  | nil => exact refl []
  | cons item items ih =>
    obtain ⟨hitem, hitems⟩ := List.forall_mem_cons.mp h
    rw [List.flatMap_cons, List.flatMap_cons]
    exact append hitem (ih hitems)

end NoHeavier

end Console

open Console

/-- No emoji is longer than eight characters. -/
theorem Emoji.length_le_of_mem_tables :
    (tables.all fun table => table.all fun entry => decide (entry.2.length ≤ 8)) = true := by
  decide +kernel

/-- A sign is lighter than the two colons of its code. -/
theorem Emoji.weightOf_lt_of_ofCode? {code sign : Text} (h : ofCode? code = some sign) :
    weightOf sign < 20 := by
  have hselector : (splitForm code).2.length ≤ 1 := by
    unfold splitForm
    split
    · exact Nat.le_refl _
    · split
      · exact Nat.le_refl _
      · exact Nat.zero_le _
  have hsigns : ∀ c ∈ sign, weight c = 1 := by
    intro c hc
    have hsign := isSign_of_ofCode? h c hc
    simp only [isSign, Bool.and_eq_true, bne_iff_ne, ne_eq] at hsign
    exact if_neg (by simp [hsign])
  have hlength : sign.length ≤ 9 := by
    obtain ⟨named, hnamed, rfl⟩ := Option.map_eq_some_iff.mp h
    obtain ⟨entry, hentry, rfl⟩ := Option.map_eq_some_iff.mp hnamed
    have hall := length_le_of_mem_tables
    simp only [List.all_eq_true, decide_eq_true_eq] at hall
    have hnamed := hall _ (tableFor_mem_tables _) entry (List.mem_of_find?_eq_some hentry)
    show (_ ++ (splitForm code).2).length ≤ 9
    rw [List.length_append, List.length_map]
    omega
  rw [weightOf, List.map_congr_left hsigns, List.map_const', List.sum_replicate_nat]
  omega

/-- Replacing codes makes no text heavier, since an emoji weighs less than the colons of its code. -/
theorem Emoji.noHeavier_replaceCodes (text : Text) : NoHeavier (replaceCodes text) text := by
  induction text using code_induction with
  | nil =>
    rw [replaceCodes]
    exact NoHeavier.refl []
  | char c rest hc ih =>
    rw [replaceCodes_cons_of_ne hc]
    exact NoHeavier.append (NoHeavier.refl [c]) ih
  | unclosed rest hrest ih =>
    rw [replaceCodes_of_unclosed hrest]
    exact NoHeavier.append (NoHeavier.refl [':']) ih
  | closed code after hcode ih =>
    have hsplit : ':' :: (code ++ ':' :: after) = ':' :: (code ++ [':']) ++ after := by simp
    rw [replaceCodes_of_closed hcode, hsplit]
    refine NoHeavier.append ?_ ih
    cases hsign : ofCode? code with
    | none => exact NoHeavier.refl _
    | some sign =>
      have hlighter := weightOf_lt_of_ofCode? hsign
      have hcolon : weight ':' = 10 := rfl
      refine .inr ?_
      simp only [Option.getD_some, weightOf_cons, weightOf_append, weightOf_nil, hcolon]
      omega

namespace StyleTag

/-- Removing protection only drops backslashes. -/
theorem unprotect_sublist (text : Text) : (unprotect text).Sublist text := by
  fun_induction unprotect text with
  | case1 => exact .refl []
  | case2 c => exact .refl [c]
  | case3 c d rest hpair ih =>
    simp only [Bool.and_eq_true, decide_eq_true_eq] at hpair
    rw [hpair.2]
    exact (ih.cons_cons '[').cons c
  | case4 c d rest hpair ih => exact ih.cons_cons c

theorem noHeavier_shownPiece (text : Text) : NoHeavier (shownPiece text) text :=
  NoHeavier.trans (NoHeavier.of_sublist List.filter_sublist) <|
    NoHeavier.trans (Emoji.noHeavier_replaceCodes (unprotect text))
      (NoHeavier.of_sublist (unprotect_sublist text))

end StyleTag

end TemplateAudit
