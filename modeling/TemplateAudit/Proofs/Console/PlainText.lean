import TemplateAudit.Console.Line
import TemplateAudit.Proofs.Console.Line
import TemplateAudit.Proofs.Console.StyledText
import TemplateAudit.Text.Printable

namespace TemplateAudit

/-- The characters that are not steady are the tab and the controls that are dropped. -/
theorem Console.isSteady_iff {c : Char} :
    isSteady c = true ↔ c.toNat ∉ [0x7, 0x8, 0x9, 0xB, 0xC, 0xD] := by
  have htab : c = '\t' ↔ c.toNat = 0x9 := by
    refine ⟨fun h => by rw [h]; rfl, fun h => ?_⟩
    exact Char.ext (UInt32.toNat_inj.mp h)
  simp only [isSteady, isDropped, Bool.and_eq_true, Bool.not_eq_true', bne_iff_ne, ne_eq, htab,
    List.contains_eq_mem, decide_eq_false_iff_not, List.mem_cons, List.not_mem_nil, or_false]
  omega

theorem Console.isSteady_of_isPrintable {c : Char} (h : isPrintable c = true) : isSteady c = true := by
  rw [isSteady_iff]
  unfold isPrintable at h
  split at h
  · simp only [Bool.and_eq_true, decide_eq_true_eq] at h
    simp only [List.mem_cons, List.not_mem_nil, or_false]
    omega
  · simp only [List.mem_cons, List.not_mem_nil, or_false]
    omega

theorem Console.isSteady_of_isSign {c : Char} (h : Emoji.isSign c = true) : isSteady c = true := by
  rw [isSteady_iff]
  simp only [Emoji.isSign, Bool.and_eq_true, decide_eq_true_eq] at h
  simp only [List.mem_cons, List.not_mem_nil, or_false]
  omega

theorem Console.isSteady_of_mem_ofNat {n : Nat} {c : Char} (h : c ∈ Text.ofNat n) : isSteady c = true :=
  Text.of_isDigit (motive := fun c => isSteady c = true) (by decide) (Text.isDigit_of_mem_ofNat h)

namespace StyleTag

/-- A text without a protected bracket loses no backslash. -/
theorem unprotect_eq_self {text : Text} (h : ¬ ['\\', '['] <:+: text) : unprotect text = text := by
  fun_induction unprotect text with
  | case1 => rfl
  | case2 => rfl
  | case3 c d rest hpair ih =>
    simp only [Bool.and_eq_true, decide_eq_true_eq] at hpair
    obtain ⟨rfl, rfl⟩ := hpair
    exact absurd ⟨[], rest, rfl⟩ h
  | case4 c d rest hpair ih =>
    rw [ih fun hwithin => h (hwithin.trans (List.suffix_cons c (d :: rest)).isInfix)]

/-- No character comes in where backslashes go. -/
theorem mem_of_mem_unprotect {text : Text} {c : Char} (hc : c ∈ unprotect text) : c ∈ text := by
  fun_induction unprotect text with
  | case1 => exact hc
  | case2 => exact hc
  | case3 d e rest hpair ih =>
    simp only [Bool.and_eq_true, decide_eq_true_eq] at hpair
    rw [List.mem_cons] at hc
    obtain rfl | hc := hc
    · simp [hpair.2]
    · exact List.mem_cons_of_mem d (List.mem_cons_of_mem e (ih hc))
  | case4 d e rest hpair ih =>
    rw [List.mem_cons] at hc
    obtain rfl | hc := hc
    · exact List.mem_cons_self
    · exact List.mem_cons_of_mem d (ih hc)

/-- Of a text of steady characters without a protected bracket only the codes are replaced. -/
theorem shownPiece_eq {text : Text} (hslash : ¬ ['\\', '['] <:+: text)
    (hsteady : ∀ c ∈ text, Console.isSteady c = true) : shownPiece text = Emoji.replaceCodes text := by
  rw [shownPiece, unprotect_eq_self hslash]
  refine List.filter_eq_self.mpr fun c hc => ?_
  have hshown : Console.isSteady c = true :=
    (Emoji.mem_replaceCodes hc).elim (hsteady c) Console.isSteady_of_isSign
  exact (Bool.and_eq_true_iff.mp hshown).1

/-- Nothing is shown that the text does not hold, signs apart. -/
theorem isSteady_of_mem_shownText {text : Text} (h : ∀ c ∈ text, Console.isSteady c = true) :
    ∀ c ∈ shownText text, Console.isSteady c = true := by
  intro c hc
  obtain ⟨token, htoken, hpiece⟩ := List.mem_flatMap.mp hc
  obtain hpiece | hsign := Emoji.mem_replaceCodes (List.mem_filter.mp hpiece).1
  · exact h c ((text_infix_of_mem_cuts htoken).subset (mem_of_mem_unprotect hpiece))
  · exact Console.isSteady_of_isSign hsign

/-- A text without emoji codes and without protected brackets is shown as it is. -/
theorem shownText_eq_self {text : Text} (hslash : ¬ ['\\', '['] <:+: text) (hcodes : Emoji.CodeFree text)
    (hsteady : ∀ c ∈ text, Console.isSteady c = true) : shownText text = text := by
  have hpieces : ∀ token ∈ cuts text, shownPiece token.text = token.text := by
    intro token htoken
    have hwithin := text_infix_of_mem_cuts htoken
    rw [shownPiece_eq (fun hpair => hslash (hpair.trans hwithin)) fun c hc => hsteady c (hwithin.subset hc)]
    exact Emoji.replaceCodes_of_codeFree (hcodes.of_infix hwithin)
  calc shownText text = (cuts text).flatMap Token.text := by
        rw [shownText, List.flatMap_def, List.flatMap_def, List.map_congr_left hpieces]
    _ = text := flatMap_text_cuts text

/-- A text without a closing bracket is one piece. -/
theorem cuts_of_no_bracket {text : Text} (hclose : ']' ∉ text) (hne : text ≠ []) :
    cuts text = [.plain text] := by
  induction text with
  | nil => exact absurd rfl hne
  | cons c rest ih =>
    have hlead : lead? (c :: rest) = none := lead?_append (show lead? [] = none from rfl) hclose
    rw [cuts_cons_of_lead? hlead]
    cases rest with
    | nil =>
      rw [cuts_nil]
      rfl
    | cons d rest =>
      rw [ih (fun hmem => hclose (List.mem_cons_of_mem c hmem)) (List.cons_ne_nil d rest)]
      rfl

/-- Text without a closing bracket belongs to the last piece. -/
theorem cuts_append {rest : Text} (hclose : ']' ∉ rest) (hne : rest ≠ []) (text : Text) :
    ∃ (pieces : List Token) (piece : Text), cuts (text ++ rest) = pieces ++ [.plain (piece ++ rest)] ∧
      pieces.flatMap Token.text ++ piece = text := by
  induction text using lead_induction with
  | nil =>
    exact ⟨[], [], cuts_of_no_bracket hclose hne, rfl⟩
  | tag slashes body after hbody ih =>
    obtain ⟨pieces, piece, hcuts, htext⟩ := ih
    have hlead : lead? (Text.repeated slashes '\\' ++ '[' :: (body ++ ']' :: after) ++ rest) =
        some (slashes, body, after ++ rest) := lead?_eq_some_iff.mpr ⟨hbody, by simp⟩
    have hwhole := flatMap_text_cuts (Text.repeated slashes '\\' ++ '[' :: (body ++ ']' :: after))
    rw [cuts_of_lead? (lead?_tag hbody slashes after), List.flatMap_append, flatMap_text_cuts] at hwhole
    refine ⟨leadTokens 0 (2 * slashes + 1) body ++ pieces, piece, ?_, ?_⟩
    · rw [cuts_of_lead? hlead, hcuts, List.append_assoc]
    · rw [List.flatMap_append, List.append_assoc, htext, hwhole]
  | char c text hlead ih =>
    obtain ⟨pieces, piece, hcuts, htext⟩ := ih
    have hlonger : lead? (c :: (text ++ rest)) = none := lead?_append hlead hclose
    rw [List.cons_append, cuts_cons_of_lead? hlonger, hcuts]
    cases pieces with
    | nil =>
      refine ⟨[], c :: piece, rfl, ?_⟩
      rw [← htext]
      rfl
    | cons token pieces =>
      refine ⟨consPlain c (token :: pieces), piece, ?_, ?_⟩
      · cases token <;> rfl
      · rw [flatMap_text_consPlain, ← htext, List.cons_append]

end StyleTag

end TemplateAudit
