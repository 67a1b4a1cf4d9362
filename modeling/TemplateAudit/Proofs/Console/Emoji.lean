import TemplateAudit.Console.Emoji
import TemplateAudit.Proofs.Text.Decimal
import TemplateAudit.Proofs.Text.LowerCase
import TemplateAudit.Proofs.Text.Run

namespace TemplateAudit.Emoji

/-- Characters that may stand in a code. -/
def inCode (c : Char) : Bool := c != ':' && !isBlank c

/-- No code that is open before the text is closed in it. -/
def Unclosed (text : Text) : Prop := (text.dropWhile inCode).head? ≠ some ':'

instance (text : Text) : Decidable (Unclosed text) := inferInstanceAs (Decidable (_ ≠ _))

/-- Behind a colon either a code is closed by a second one, or a blank or the end comes first. -/
theorem closed_or_unclosed (text : Text) :
    (∃ code after, (∀ c ∈ code, inCode c = true) ∧ text = code ++ ':' :: after) ∨ Unclosed text := by
  have hrun := Text.isLongestRun_takeWhile inCode text
  have hsplit := List.takeWhile_append_dropWhile (p := inCode) (l := text)
  by_cases hclosed : (text.dropWhile inCode).head? = some ':'
  · obtain ⟨after, hafter⟩ := List.head?_eq_some_iff.mp hclosed
    rw [hafter] at hsplit
    exact .inl ⟨_, after, hrun.1, hsplit.symm⟩
  · exact .inr hclosed

theorem replaceCodes_cons_of_ne {c : Char} (hc : c ≠ ':') (rest : Text) :
    replaceCodes (c :: rest) = c :: replaceCodes rest := by
  rw [replaceCodes, if_neg hc]

/-- A colon that opens no code is kept, and the search goes on right behind it. -/
theorem replaceCodes_of_unclosed {rest : Text} (h : Unclosed rest) :
    replaceCodes (':' :: rest) = ':' :: replaceCodes rest := by
  rw [replaceCodes, if_pos rfl]
  split
  · rfl
  · next d after hdrop =>
    rw [if_neg]
    rintro rfl
    exact h (congrArg List.head? hdrop)

/-- A closed code gives way to its emoji, or stays with both of its colons if it has none. -/
theorem replaceCodes_of_closed {code : Text} (hcode : ∀ c ∈ code, inCode c = true) (after : Text) :
    replaceCodes (':' :: (code ++ ':' :: after)) =
      (ofCode? code).getD (':' :: (code ++ [':'])) ++ replaceCodes after := by
  have hrun : Text.IsLongestRun inCode code (':' :: after) := by
    refine ⟨hcode, fun c hc => ?_⟩
    obtain rfl := Option.some.inj hc
    decide
  have htake : (code ++ ':' :: after).takeWhile (fun c => c != ':' && !isBlank c) = code :=
    hrun.takeWhile_eq
  rw [replaceCodes, if_pos rfl]
  split
  · next hdrop => exact absurd (hrun.dropWhile_eq.symm.trans hdrop) (List.cons_ne_nil _ _)
  · next d rest hdrop =>
    obtain ⟨rfl, rfl⟩ := List.cons.inj (hrun.dropWhile_eq.symm.trans hdrop)
    rw [if_pos rfl, htake]

/-- Induction over a text along the codes in it. -/
theorem code_induction {motive : Text → Prop} (nil : motive [])
    (char : ∀ c rest, c ≠ ':' → motive rest → motive (c :: rest))
    (unclosed : ∀ rest, Unclosed rest → motive rest → motive (':' :: rest))
    (closed : ∀ code after, (∀ c ∈ code, inCode c = true) → motive after →
      motive (':' :: (code ++ ':' :: after))) (text : Text) : motive text := by
  induction hlength : text.length using Nat.strong_induction_on generalizing text with
  | _ n ih =>
    match text, hlength with
    | [], _ => exact nil
    | c :: rest, hlength =>
      rw [List.length_cons] at hlength
      by_cases hc : c = ':'
      · subst hc
        obtain ⟨code, after, hcode, rfl⟩ | hopen := closed_or_unclosed rest
        · refine closed code after hcode (ih after.length ?_ after rfl)
          simp only [List.length_append, List.length_cons] at hlength
          omega
        · exact unclosed rest hopen (ih rest.length (by omega) rest rfl)
      · exact char c rest hc (ih rest.length (by omega) rest rfl)

theorem unclosed_of_blank {c : Char} (hc : isBlank c = true) (rest : Text) : Unclosed (c :: rest) := by
  have hstop : inCode c = false := by simp [inCode, hc]
  have hne : c ≠ ':' := by
    rintro rfl
    exact absurd hc (by decide)
  simp [Unclosed, hstop, hne]

/-- A code that is closed neither in one text nor in the next is not closed in both together. -/
theorem Unclosed.append {text rest : Text} (htext : Unclosed text) (hrest : Unclosed rest) :
    Unclosed (text ++ rest) := by
  unfold Unclosed at *
  rw [List.dropWhile_append]
  split
  · exact hrest
  · next hne =>
    rw [List.head?_append]
    cases hdrop : (text.dropWhile inCode).head? with
    | none => exact absurd (List.head?_eq_none_iff.mp hdrop) (by simpa using hne)
    | some c => rwa [hdrop] at htext

/-- Where no code reaches from one part of a text into the other, the parts may be looked at one by
    one. -/
theorem replaceCodes_append {rest : Text} (hrest : Unclosed rest) (text : Text) :
    replaceCodes (text ++ rest) = replaceCodes text ++ replaceCodes rest := by
  induction text using code_induction with
  | nil => rw [replaceCodes, List.nil_append, List.nil_append]
  | char c text hc ih =>
    rw [List.cons_append, replaceCodes_cons_of_ne hc, replaceCodes_cons_of_ne hc, ih, List.cons_append]
  | unclosed text htext ih =>
    rw [List.cons_append, replaceCodes_of_unclosed (htext.append hrest), replaceCodes_of_unclosed htext, ih,
      List.cons_append]
  | closed code after hcode ih =>
    rw [List.cons_append, List.append_assoc, List.cons_append, replaceCodes_of_closed hcode,
      replaceCodes_of_closed hcode, ih, List.append_assoc]

/-- A text without a colon has no part in a code of the text behind it. -/
theorem replaceCodes_append_of_notMem {text : Text} (h : ':' ∉ text) (rest : Text) :
    replaceCodes (text ++ rest) = text ++ replaceCodes rest := by
  induction text with
  | nil => rfl
  | cons c text ih =>
    rw [List.mem_cons, not_or] at h
    rw [List.cons_append, replaceCodes_cons_of_ne (Ne.symm h.1), ih h.2, List.cons_append]

theorem replaceCodes_of_notMem {text : Text} (h : ':' ∉ text) : replaceCodes text = text := by
  have hnil : replaceCodes [] = [] := by rw [replaceCodes]
  have happend := replaceCodes_append_of_notMem h []
  rwa [hnil, List.append_nil] at happend

/-- No two colons of the text have a known code between them. -/
def CodeFree (text : Text) : Prop := ∀ code, ':' :: (code ++ [':']) <:+: text → ofCode? code = none

theorem CodeFree.of_infix {text part : Text} (h : CodeFree text) (hpart : part <:+: text) :
    CodeFree part := fun code hcode => h code (hcode.trans hpart)

/-- Only known codes are replaced. -/
theorem replaceCodes_of_codeFree {text : Text} (h : CodeFree text) : replaceCodes text = text := by
  induction text using code_induction with
  | nil => rw [replaceCodes]
  | char c rest hc ih =>
    rw [replaceCodes_cons_of_ne hc, ih (h.of_infix (List.suffix_cons c rest).isInfix)]
  | unclosed rest hrest ih =>
    rw [replaceCodes_of_unclosed hrest, ih (h.of_infix (List.suffix_cons ':' rest).isInfix)]
  | closed code after hcode ih =>
    have hunknown : ofCode? code = none := by
      refine h code (List.IsPrefix.isInfix ⟨after, ?_⟩)
      simp
    have hafter : after <:+: ':' :: (code ++ ':' :: after) := ⟨':' :: (code ++ [':']), [], by simp⟩
    rw [replaceCodes_of_closed hcode, hunknown, ih (h.of_infix hafter)]
    simp

/-- A code takes two colons. -/
theorem codeFree_of_count {text : Text} (h : text.count ':' < 2) : CodeFree text := by
  intro code hcode
  have hcount := hcode.sublist.count_le ':'
  rw [List.count_cons_self, List.count_append, List.count_singleton_self] at hcount
  omega

/-- All tables of emoji. -/
def tables : List (List (String × List Nat)) :=
  [emojiA, emojiB, emojiC, emojiD, emojiE, emojiF, emojiG, emojiH, emojiI, emojiJ, emojiK, emojiL,
   emojiM, emojiN, emojiO, emojiP, emojiQ, emojiR, emojiS, emojiT, emojiU, emojiV, emojiW, emojiX,
   emojiY, emojiZ, emojiDigits]

theorem tableFor_mem_tables (name : Text) : tableFor name ∈ tables := by
  unfold tableFor
  split <;> repeat first | exact List.mem_cons_self | apply List.mem_cons_of_mem

/-- Characters of emoji: neither controls nor any of the characters that JSON or the console gives a
    meaning. -/
def isSign (c : Char) : Bool := 0x22 < c.toNat && c != ':' && c != '[' && c != '\\'

/-- The tables hold nothing but signs. -/
theorem isSign_of_mem_tables :
    (tables.all fun table => table.all fun entry => entry.2.all fun code => isSign (Char.ofNat code)) =
      true := by
  decide +kernel

/-- The emoji of a name is made of signs. -/
theorem isSign_of_named? {name sign : Text} (h : named? name = some sign) :
    ∀ c ∈ sign, isSign c = true := by
  obtain ⟨entry, hentry, rfl⟩ := Option.map_eq_some_iff.mp h
  have hall := isSign_of_mem_tables
  simp only [List.all_eq_true] at hall
  intro c hc
  obtain ⟨code, hcode, rfl⟩ := List.mem_map.mp hc
  exact hall _ (tableFor_mem_tables name) entry (List.mem_of_find?_eq_some hentry) code hcode

/-- A known code stands for signs. -/
theorem isSign_of_ofCode? {code sign : Text} (h : ofCode? code = some sign) :
    ∀ c ∈ sign, isSign c = true := by
  have hselector : ∀ c ∈ (splitForm code).2, isSign c = true := by
    unfold splitForm
    split
    · exact List.forall_mem_singleton.mpr (by decide)
    · split
      · exact List.forall_mem_singleton.mpr (by decide)
      · exact List.forall_mem_nil _
  obtain ⟨named, hnamed, rfl⟩ := Option.map_eq_some_iff.mp h
  intro c hc
  obtain hc | hc := List.mem_append.mp hc
  · exact isSign_of_named? hnamed c hc
  · exact hselector c hc

/-- Replacing codes adds nothing but signs. -/
theorem mem_replaceCodes {text : Text} {c : Char} (hc : c ∈ replaceCodes text) :
    c ∈ text ∨ isSign c = true := by
  induction text using code_induction with
  | nil =>
    rw [replaceCodes] at hc
    exact absurd hc List.not_mem_nil
  | char d rest hd ih =>
    rw [replaceCodes_cons_of_ne hd, List.mem_cons] at hc
    obtain rfl | hc := hc
    · exact .inl List.mem_cons_self
    · exact (ih hc).imp_left (List.mem_cons_of_mem d)
  | unclosed rest hrest ih =>
    rw [replaceCodes_of_unclosed hrest, List.mem_cons] at hc
    obtain rfl | hc := hc
    · exact .inl List.mem_cons_self
    · exact (ih hc).imp_left (List.mem_cons_of_mem ':')
  | closed code after hcode ih =>
    rw [replaceCodes_of_closed hcode, List.mem_append] at hc
    obtain hc | hc := hc
    · cases hsign : ofCode? code with
      | none =>
        rw [hsign, Option.getD_none] at hc
        have hkept : ':' :: (code ++ [':']) <+: ':' :: (code ++ ':' :: after) := ⟨after, by simp⟩
        exact .inl (hkept.mem hc)
      | some sign =>
        rw [hsign, Option.getD_some] at hc
        exact .inr (isSign_of_ofCode? hsign c hc)
    · refine (ih hc).imp_left fun hafter => ?_
      simp [hafter]

/-- Of the names in the last table only two are numbers. -/
theorem not_all_isDigit_of_mem_emojiDigits :
    ∀ entry ∈ emojiDigits, entry.1.toList = Text.ofNat 100 ∨ entry.1.toList = Text.ofNat 1234 ∨
      entry.1.toList.all Char.isDigit = false := by
  decide

theorem inCode_of_isDigit {c : Char} (h : c.isDigit = true) : inCode c = true :=
  Text.of_isDigit (motive := fun c => inCode c = true) (by decide) h

theorem tableFor_of_isDigit {name : Text} (h : ∀ c ∈ name, c.isDigit = true) :
    tableFor name = emojiDigits := by
  unfold tableFor
  split
  case h_27 => rfl
  all_goals exact absurd (h _ List.mem_cons_self) (by decide)

theorem splitForm_of_isDigit {code : Text} (h : ∀ c ∈ code, c.isDigit = true) :
    splitForm code = (code, []) := by
  have hdash : ∀ ending : Text, '-' ∈ ending → withoutEnding? ending code = none := by
    intro ending hmem
    refine if_neg fun hsuffix => ?_
    have hcode := (List.isSuffixOf_iff_suffix.mp hsuffix).mem hmem
    exact absurd (h '-' hcode) (by decide)
  rw [splitForm, hdash _ (by decide), hdash _ (by decide)]

theorem lower_of_isDigit {text : Text} (h : ∀ c ∈ text, c.isDigit = true) : text.lower = text := by
  have hascii : ∀ c ∈ text, c.toNat < 0x80 ∧ c.toLower = c :=
    fun c hc => Text.of_isDigit (motive := fun c => c.toNat < 0x80 ∧ c.toLower = c) (by decide) (h c hc)
  rw [Text.lower, lowerFrom_ascii fun c hc => (hascii c hc).1]
  exact (List.map_congr_left fun c hc => (hascii c hc).2).trans (List.map_id' text)

/-- Of all numbers two are emoji codes. -/
theorem ofCode?_ofNat_eq_none_iff {n : Nat} :
    ofCode? (Text.ofNat n) = none ↔ n ≠ 100 ∧ n ≠ 1234 := by
  have hdigits : ∀ c ∈ Text.ofNat n, c.isDigit = true := fun c => Text.isDigit_of_mem_ofNat
  rw [ofCode?, splitForm_of_isDigit hdigits]
  simp only [lower_of_isDigit hdigits, named?, tableFor_of_isDigit hdigits, Option.map_eq_none_iff,
    List.find?_eq_none, beq_iff_eq]
  constructor
  · intro h
    refine ⟨?_, ?_⟩
    · rintro rfl
      exact h ("100", [0x1F4AF]) (by decide) rfl
    · rintro rfl
      exact h ("1234", [0x1F522]) (by decide) rfl
  · rintro ⟨hhundred, hcounting⟩ entry hentry hname
    obtain hsame | hsame | hother := not_all_isDigit_of_mem_emojiDigits entry hentry
    · exact hhundred (Text.ofNat_inj.mp (hname.symm.trans hsame))
    · exact hcounting (Text.ofNat_inj.mp (hname.symm.trans hsame))
    · rw [hname, List.all_eq_true.mpr hdigits] at hother
      cases hother

end TemplateAudit.Emoji
