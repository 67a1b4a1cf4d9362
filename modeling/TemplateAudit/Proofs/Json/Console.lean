import Mathlib.Data.List.Forall2
import TemplateAudit.Proofs.Console.PlainText
import TemplateAudit.Proofs.Json.Value

namespace TemplateAudit.Json

/-- Only characters below the lower-case letters are ever escaped. -/
theorem escapeChar_cases {motive : Char → Text → Prop}
    (low : ∀ n < 0x60, motive (Char.ofNat n) (escapeChar (Char.ofNat n)))
    (high : ∀ c : Char, 0x60 ≤ c.toNat → motive c [c]) (c : Char) : motive c (escapeChar c) := by
  by_cases hc : c.toNat < 0x60
  · have hlow := low c.toNat hc
    rwa [Char.ofNat_toNat] at hlow
  · have hplain : escapeChar c = [c] := by
      have hne : ∀ d : Char, d.toNat < 0x60 → c ≠ d := by
        rintro d hd rfl
        exact hc hd
      rw [escapeChar, if_neg (hne _ (by decide)), if_neg (hne _ (by decide)), if_neg (by omega),
        if_neg (by omega), if_neg (hne _ (by decide)), if_neg (hne _ (by decide)),
        if_neg (hne _ (by decide)), if_neg (by omega)]
    rw [hplain]
    exact high c (Nat.not_lt.mp hc)

/-- Escaping a character gives steady characters. -/
theorem isSteady_of_mem_escapeChar (c : Char) : ∀ d ∈ escapeChar c, Console.isSteady d = true := by
  refine List.all_eq_true.mp (escapeChar_cases (motive := fun _ text => text.all Console.isSteady = true)
    (by decide +kernel) (fun c hc => ?_) c)
  have hsteady : Console.isSteady c = true := by
    rw [Console.isSteady_iff]
    simp only [List.mem_cons, List.not_mem_nil, or_false]
    omega
  exact List.all_eq_true.mpr (List.forall_mem_singleton.mpr hsteady)

theorem colon_mem_escapeChar_iff {c : Char} : ':' ∈ escapeChar c ↔ c = ':' := by
  refine escapeChar_cases (motive := fun c text => ':' ∈ text ↔ c = ':') (by decide +kernel) ?_ c
  intro c _
  rw [List.mem_singleton, eq_comm]

theorem escapeChar_of_isSign {c : Char} : Emoji.isSign c = true → escapeChar c = [c] :=
  escapeChar_cases (motive := fun c text => Emoji.isSign c = true → text = [c]) (by decide +kernel)
    (fun _ _ _ => rfl) c

theorem written_cons (c : Char) (text : Text) : written (c :: text) = escapeChar c ++ written text := rfl

theorem written_append (first second : Text) : written (first ++ second) = written first ++ written second :=
  List.flatMap_append

theorem written_colon (text : Text) : written (':' :: text) = ':' :: written text := rfl

theorem colon_mem_written_iff {text : Text} : ':' ∈ written text ↔ ':' ∈ text := by
  simp only [written, List.mem_flatMap, colon_mem_escapeChar_iff, exists_eq_right]

/-- A written text has as many colons as the text itself. -/
theorem count_colon_written (text : Text) : (written text).count ':' = text.count ':' := by
  induction text with
  | nil => rfl
  | cons c text ih =>
    rw [written_cons, List.count_append, ih]
    by_cases hc : c = ':'
    · subst hc
      rw [List.count_cons_self, Nat.add_comm]
      rfl
    · rw [List.count_eq_zero.mpr (mt colon_mem_escapeChar_iff.mp hc), List.count_cons_of_ne hc, Nat.zero_add]

theorem isSteady_of_mem_written {text : Text} : ∀ c ∈ written text, Console.isSteady c = true := by
  intro c hc
  obtain ⟨d, _, hd⟩ := List.mem_flatMap.mp hc
  exact isSteady_of_mem_escapeChar d c hd

/-- Signs are written as they are. -/
theorem written_of_isSign {sign : Text} (h : ∀ c ∈ sign, Emoji.isSign c = true) : written sign = sign := by
  induction sign with
  | nil => rfl
  | cons c sign ih =>
    obtain ⟨hc, hsign⟩ := List.forall_mem_cons.mp h
    rw [written_cons, escapeChar_of_isSign hc, ih hsign]
    rfl

/-- The first colon of a written text is the first colon of the text. -/
theorem exists_of_written_colon {text code after : Text} (hcode : ':' ∉ code)
    (h : written text = code ++ ':' :: after) :
    ∃ first second, text = first ++ ':' :: second ∧ written first = code ∧ written second = after := by
  obtain ⟨hnone, _⟩ | ⟨second, _, hsplit, hfirst⟩ := Text.search_cases ':' text
  · refine absurd (colon_mem_written_iff.mp ?_) hnone
    rw [h]
    exact List.mem_append_right code List.mem_cons_self
  · refine ⟨_, second, hsplit, ?_⟩
    rw [hsplit, written_append, written_colon] at h
    have hrun := Text.isLongestRun_search (mt colon_mem_written_iff.mp hfirst) (written second)
    have hrun' := Text.isLongestRun_search hcode after
    have hbefore := hrun.takeWhile_eq
    have hbehind := hrun.dropWhile_eq
    rw [h, hrun'.takeWhile_eq] at hbefore
    rw [h, hrun'.dropWhile_eq] at hbehind
    exact ⟨hbefore.symm, (List.cons.inj hbehind).2.symm⟩

/-- Written text in which codes have been replaced is still what would be written for some text. -/
theorem exists_written_replaceCodes (text : Text) :
    ∃ shown, written shown = Emoji.replaceCodes (written text) := by
  -- A code uses up several characters at once, hence the induction on the length.
  induction hlength : text.length using Nat.strong_induction_on generalizing text with
  | _ n ih =>
    match text, hlength with
    | [], _ => exact ⟨[], by rw [written, List.flatMap_nil, Emoji.replaceCodes]⟩
    | c :: rest, hlength =>
      rw [List.length_cons] at hlength
      by_cases hc : c = ':'
      · subst hc
        rw [written_colon]
        obtain ⟨code, after, hcode, hafter⟩ | hopen := Emoji.closed_or_unclosed (written rest)
        · have hcolon : ':' ∉ code := fun hmem => absurd (hcode ':' hmem) (by decide)
          obtain ⟨first, second, rfl, rfl, rfl⟩ := exists_of_written_colon hcolon hafter
          simp only [List.length_append, List.length_cons] at hlength
          obtain ⟨shown, hshown⟩ := ih second.length (by omega) second rfl
          rw [hafter, Emoji.replaceCodes_of_closed hcode]
          cases hsign : Emoji.ofCode? (written first) with
          | none =>
            refine ⟨':' :: (first ++ ':' :: shown), ?_⟩
            rw [written_colon, written_append, written_colon, hshown]
            simp
          | some sign =>
            refine ⟨sign ++ shown, ?_⟩
            rw [written_append, written_of_isSign (Emoji.isSign_of_ofCode? hsign), hshown]
            rfl
        · obtain ⟨shown, hshown⟩ := ih rest.length (by omega) rest rfl
          exact ⟨':' :: shown, by rw [Emoji.replaceCodes_of_unclosed hopen, written_colon, hshown]⟩
      · obtain ⟨shown, hshown⟩ := ih rest.length (by omega) rest rfl
        refine ⟨c :: shown, ?_⟩
        rw [written_cons, written_cons,
          Emoji.replaceCodes_append_of_notMem (mt colon_mem_escapeChar_iff.mp hc), hshown]

/-- Before a text that closes no code, a console shows the second value for the first one. -/
def ShownAs (value shown : Json) : Prop :=
  ∀ level rest, Emoji.Unclosed rest →
    Emoji.replaceCodes (renderAt level value ++ rest) = renderAt level shown ++ Emoji.replaceCodes rest

theorem unclosed_cons {c : Char} (hc : Emoji.Unclosed [c]) {rest : Text} (hrest : Emoji.Unclosed rest) :
    Emoji.Unclosed (c :: rest) :=
  hc.append hrest

theorem shownAs_int (n : Int) : ShownAs (.int n) (.int n) := by
  have hcolon : ':' ∉ Text.ofInt n := by
    cases n with
    | ofNat m => exact Text.not_mem_ofNat rfl m
    | negSucc m => exact List.not_mem_cons_of_ne_of_not_mem (by decide) (Text.not_mem_ofNat rfl (m + 1))
  exact fun _ rest _ => Emoji.replaceCodes_append_of_notMem hcolon rest

/-- A string is shown as another if that is written as its codes are replaced. -/
theorem shownAs_string {text shown : Text} (h : written shown = Emoji.replaceCodes (written text)) :
    ShownAs (.string text) (.string shown) := by
  intro level rest hrest
  have hquote : ∀ text, renderAt level (.string text) ++ rest = '"' :: (written text ++ '"' :: rest) := by
    intro text
    rw [renderAt_string, quote_eq, List.cons_append, List.append_assoc]
    rfl
  have hquote' : renderAt level (.string shown) ++ Emoji.replaceCodes rest =
      '"' :: (written shown ++ '"' :: Emoji.replaceCodes rest) := by
    rw [renderAt_string, quote_eq, List.cons_append, List.append_assoc]
    rfl
  rw [hquote, hquote', Emoji.replaceCodes_cons_of_ne (by decide),
    Emoji.replaceCodes_append (unclosed_cons (by decide) hrest), Emoji.replaceCodes_cons_of_ne (by decide), h]

theorem colon_not_mem_lineBreak (level : Nat) : ':' ∉ lineBreak level := by
  refine List.not_mem_cons_of_ne_of_not_mem (by decide) fun hmem => ?_
  exact absurd (List.eq_of_mem_replicate hmem) (by decide)

theorem unclosed_lineBreak (level : Nat) (text : Text) : Emoji.Unclosed (lineBreak level ++ text) :=
  Emoji.unclosed_of_blank rfl _

/-- What follows a list item closes no code. -/
theorem unclosed_renderItems (level : Nat) (items : List Json) (rest : Text) :
    Emoji.Unclosed (renderItems level items ++ rest) := by
  cases items with
  | nil =>
    rw [renderItems, List.append_assoc]
    exact unclosed_lineBreak level _
  | cons item items =>
    rw [renderItems, List.cons_append, List.append_assoc, List.append_assoc]
    exact unclosed_cons (by decide) (unclosed_lineBreak (level + 1) _)

/-- What follows the value of a member closes no code. -/
theorem unclosed_renderMembers (level : Nat) (members : List (Text × Json)) (rest : Text) :
    Emoji.Unclosed (renderMembers level members ++ rest) := by
  cases members with
  | nil =>
    rw [renderMembers, List.append_assoc]
    exact unclosed_lineBreak level _
  | cons member members =>
    rw [renderMembers, List.cons_append]
    simp only [List.append_assoc]
    exact unclosed_cons (by decide) (unclosed_lineBreak (level + 1) _)

theorem replaceCodes_lineBreak (level : Nat) (text : Text) :
    Emoji.replaceCodes (lineBreak level ++ text) = lineBreak level ++ Emoji.replaceCodes text :=
  Emoji.replaceCodes_append_of_notMem (colon_not_mem_lineBreak level) text

/-- Codes are replaced in each item of a list by itself. -/
theorem replaceCodes_renderItems {items shown : List Json} (h : List.Forall₂ ShownAs items shown)
    (level : Nat) (rest : Text) :
    Emoji.replaceCodes (renderItems level items ++ rest) =
      renderItems level shown ++ Emoji.replaceCodes rest := by
  induction h with
  | nil =>
    rw [renderItems, List.append_assoc, replaceCodes_lineBreak, List.append_assoc]
    exact congrArg _ (Emoji.replaceCodes_cons_of_ne (by decide) rest)
  | @cons item item' items items' hitem _ ih =>
    simp only [renderItems, List.cons_append, List.append_assoc]
    rw [Emoji.replaceCodes_cons_of_ne (by decide), replaceCodes_lineBreak,
      hitem _ _ (unclosed_renderItems level items rest), ih]

/-- A list is shown item by item. -/
theorem shownAs_array {items shown : List Json} (h : List.Forall₂ ShownAs items shown) :
    ShownAs (.array items) (.array shown) := by
  intro level rest _
  cases h with
  | nil => exact Emoji.replaceCodes_append_of_notMem (show ':' ∉ ("[]" : Text) by decide) rest
  | @cons item item' items items' hitem hitems =>
    simp only [renderAt_array_cons, List.cons_append, List.append_assoc]
    rw [Emoji.replaceCodes_cons_of_ne (by decide), replaceCodes_lineBreak,
      hitem _ _ (unclosed_renderItems level items rest), replaceCodes_renderItems hitems]

/-- A member is shown with the same key, which has no colon. -/
structure MemberShownAs (member shown : Text × Json) : Prop where
  key : shown.1 = member.1
  plain : ':' ∉ member.1
  value : ShownAs member.2 shown.2

/-- Codes are replaced in the value of a member alone, as the colon behind its key opens none. -/
theorem MemberShownAs.replaceCodes {member shown : Text × Json} (h : MemberShownAs member shown) (level : Nat)
    {rest : Text} (hrest : Emoji.Unclosed rest) :
    Emoji.replaceCodes (quote member.1 ++ (": " ++ (renderAt level member.2 ++ rest))) =
      quote shown.1 ++ (": " ++ (renderAt level shown.2 ++ Emoji.replaceCodes rest)) := by
  have hquote : ':' ∉ quote member.1 := by
    rw [quote_eq]
    simp [colon_mem_written_iff, h.plain]
  have hcolon : ∀ text, Emoji.replaceCodes (": " ++ text) = ": " ++ Emoji.replaceCodes text := by
    intro text
    show Emoji.replaceCodes (':' :: ' ' :: text) = ':' :: ' ' :: Emoji.replaceCodes text
    rw [Emoji.replaceCodes_of_unclosed (Emoji.unclosed_of_blank rfl text),
      Emoji.replaceCodes_cons_of_ne (by decide)]
  rw [Emoji.replaceCodes_append_of_notMem hquote, hcolon, h.value level rest hrest, h.key]

/-- Codes are replaced in each member of an object by itself. -/
theorem replaceCodes_renderMembers {members shown : List (Text × Json)}
    (h : List.Forall₂ MemberShownAs members shown) (level : Nat) (rest : Text) :
    Emoji.replaceCodes (renderMembers level members ++ rest) =
      renderMembers level shown ++ Emoji.replaceCodes rest := by
  induction h with
  | nil =>
    rw [renderMembers, List.append_assoc, replaceCodes_lineBreak, List.append_assoc]
    exact congrArg _ (Emoji.replaceCodes_cons_of_ne (by decide) rest)
  | @cons member member' members members' hmember _ ih =>
    simp only [renderMembers, List.cons_append, List.append_assoc]
    rw [Emoji.replaceCodes_cons_of_ne (by decide), replaceCodes_lineBreak,
      hmember.replaceCodes _ (unclosed_renderMembers level members rest), ih]

/-- An object is shown member by member. -/
theorem shownAs_object {members shown : List (Text × Json)} (h : List.Forall₂ MemberShownAs members shown) :
    ShownAs (.object members) (.object shown) := by
  intro level rest _
  cases h with
  | nil => exact Emoji.replaceCodes_append_of_notMem (show ':' ∉ ("\x7b\x7d" : Text) by decide) rest
  | @cons member member' members members' hmember hmembers =>
    simp only [renderAt_object_cons, List.cons_append, List.append_assoc]
    rw [Emoji.replaceCodes_cons_of_ne (by decide), replaceCodes_lineBreak,
      hmember.replaceCodes _ (unclosed_renderMembers level members rest), replaceCodes_renderMembers hmembers]

/-- A console prints the text of the value as it is, codes apart. -/
def IsSteady (value : Json) : Prop := ∀ level, ∀ c ∈ renderAt level value, Console.isSteady c = true

theorem isSteady_of_mem_quote (text : Text) : ∀ c ∈ quote text, Console.isSteady c = true := by
  rw [quote_eq, List.forall_mem_cons, List.forall_mem_append, List.forall_mem_singleton]
  exact ⟨by decide, isSteady_of_mem_written, by decide⟩

theorem isSteady_of_mem_lineBreak (level : Nat) : ∀ c ∈ lineBreak level, Console.isSteady c = true := by
  refine List.forall_mem_cons.mpr ⟨by decide, fun c hc => ?_⟩
  rw [List.eq_of_mem_replicate hc]
  decide

theorem isSteady_of_mem_renderItems {items : List Json} (h : ∀ item ∈ items, item.IsSteady) (level : Nat) :
    ∀ c ∈ renderItems level items, Console.isSteady c = true := by
  induction items with
  | nil =>
    rw [renderItems, List.forall_mem_append]
    exact ⟨isSteady_of_mem_lineBreak level, List.all_eq_true.mp (by decide)⟩
  | cons item items ih =>
    obtain ⟨hitem, hitems⟩ := List.forall_mem_cons.mp h
    simp only [renderItems, List.forall_mem_cons, List.forall_mem_append]
    exact ⟨by decide, ⟨isSteady_of_mem_lineBreak _, hitem _⟩, ih hitems⟩

theorem isSteady_of_mem_renderMembers {members : List (Text × Json)}
    (h : ∀ member ∈ members, member.2.IsSteady) (level : Nat) :
    ∀ c ∈ renderMembers level members, Console.isSteady c = true := by
  induction members with
  | nil =>
    rw [renderMembers, List.forall_mem_append]
    exact ⟨isSteady_of_mem_lineBreak level, List.all_eq_true.mp (by decide)⟩
  | cons member members ih =>
    obtain ⟨hmember, hmembers⟩ := List.forall_mem_cons.mp h
    simp only [renderMembers, List.forall_mem_cons, List.forall_mem_append]
    exact ⟨by decide,
      ⟨⟨⟨isSteady_of_mem_lineBreak _, isSteady_of_mem_quote _⟩, List.all_eq_true.mp (by decide)⟩, hmember _⟩,
      ih hmembers⟩

/-- A list is printed as it is if its items are. -/
theorem isSteady_array {items : List Json} (h : ∀ item ∈ items, item.IsSteady) : IsSteady (.array items) := by
  intro level
  cases items with
  | nil => exact List.all_eq_true.mp (show ("[]" : Text).all Console.isSteady = true by decide)
  | cons item items =>
    obtain ⟨hitem, hitems⟩ := List.forall_mem_cons.mp h
    simp only [renderAt_array_cons, List.forall_mem_cons, List.forall_mem_append]
    exact ⟨by decide, ⟨isSteady_of_mem_lineBreak _, hitem _⟩, isSteady_of_mem_renderItems hitems level⟩

/-- An object is printed as it is if the values of its members are. -/
theorem isSteady_object {members : List (Text × Json)} (h : ∀ member ∈ members, member.2.IsSteady) :
    IsSteady (.object members) := by
  intro level
  cases members with
  | nil => exact List.all_eq_true.mp (show ("\x7b\x7d" : Text).all Console.isSteady = true by decide)
  | cons member members =>
    obtain ⟨hmember, hmembers⟩ := List.forall_mem_cons.mp h
    simp only [renderAt_object_cons, List.forall_mem_cons, List.forall_mem_append]
    exact ⟨by decide,
      ⟨⟨⟨isSteady_of_mem_lineBreak _, isSteady_of_mem_quote _⟩, List.all_eq_true.mp (by decide)⟩, hmember _⟩,
      isSteady_of_mem_renderMembers hmembers level⟩

theorem isSteady_int (n : Int) : IsSteady (.int n) := by
  intro level
  cases n with
  | ofNat m => exact fun c hc => Console.isSteady_of_mem_ofNat hc
  | negSucc m => exact List.forall_mem_cons.mpr ⟨by decide, fun c hc => Console.isSteady_of_mem_ofNat hc⟩

/-- The text of a value that can be read back has nothing that a console takes away. -/
theorem Readable.isSteady {depth : Nat} {value : Json} (h : Readable depth value) : value.IsSteady := by
  induction h with
  | null => exact fun _ => List.all_eq_true.mp (show ("null" : Text).all Console.isSteady = true by decide)
  | bool value =>
    cases value with
    | true => exact fun _ => List.all_eq_true.mp (show ("true" : Text).all Console.isSteady = true by decide)
    | false => exact fun _ => List.all_eq_true.mp (show ("false" : Text).all Console.isSteady = true by decide)
  | int _ => exact isSteady_int _
  | string text => exact fun _ => isSteady_of_mem_quote text
  | emptyArray => exact isSteady_array (List.forall_mem_nil _)
  | emptyObject => exact isSteady_object (List.forall_mem_nil _)
  | array _ ih => exact isSteady_array ih
  | object _ ih => exact isSteady_object ih

/-- A console shows the text of a value as that of the other one, with a line feed behind it. -/
theorem untaggedLine_render {value shown : Json} (h : ShownAs value shown) {depth : Nat}
    (hshown : Readable depth shown) : Console.untaggedLine (render value) = render shown ++ "\n" := by
  have hcodes := h 0 [] (by decide)
  have hnil : Emoji.replaceCodes [] = [] := by rw [Emoji.replaceCodes]
  rw [List.append_nil, hnil, List.append_nil] at hcodes
  rw [Console.untaggedLine, render, hcodes, Console.verbatimLine_of_steady (hshown.isSteady 0)]
  rfl

end TemplateAudit.Json
