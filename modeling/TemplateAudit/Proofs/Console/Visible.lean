import TemplateAudit.Proofs.Console.PlainText
import TemplateAudit.Proofs.Console.Weight
import TemplateAudit.Proofs.Steps

namespace TemplateAudit.StyleTag

open Console

/-- A token without its place. -/
def Token.unplaced : Token → Token
  | .tag body _ => .tag body 0
  | token => token

theorem Token.text_unplaced (token : Token) : token.unplaced.text = token.text := by
  cases token <;> rfl

theorem Token.isText_unplaced (token : Token) : token.unplaced.isText = token.isText := by
  cases token <;> rfl

theorem map_unplaced_consPlain (c : Char) (tokens : List Token) :
    (consPlain c tokens).map Token.unplaced = consPlain c (tokens.map Token.unplaced) := by
  match tokens with
  | [] => rfl
  | .plain _ :: _ => rfl
  | .literal _ :: _ => rfl
  | .tag _ _ :: _ => rfl

/-- Up to their places, the tokens of a tag are the same everywhere. -/
theorem map_unplaced_leadTokens (position place slashes : Nat) (body : Text) :
    (leadTokens position slashes body).map Token.unplaced =
      (leadTokens place slashes body).map Token.unplaced := by
  have hlast : ∀ position, (if slashes % 2 = 1 then Token.literal ('[' :: (body ++ [']']))
      else Token.tag body position).unplaced =
        if slashes % 2 = 1 then Token.literal ('[' :: (body ++ [']'])) else Token.tag body 0 := by
    intro position
    split <;> rfl
  simp only [leadTokens, List.map_append, List.map_singleton, hlast]

/-- Where a text stands only changes the places of its tags. -/
theorem map_unplaced_tokens (position place : Nat) (text : Text) :
    (tokens position text).map Token.unplaced = (tokens place text).map Token.unplaced := by
  induction text using lead_induction generalizing position place with
  | nil => rw [tokens_nil, tokens_nil]
  | tag slashes body after hbody ih =>
    have hlead := lead?_tag hbody slashes after
    rw [tokens_of_lead? hlead, tokens_of_lead? hlead, List.map_append, List.map_append,
      map_unplaced_leadTokens position place, ih _ (place + slashes + body.length + 2)]
  | char c rest hlead ih =>
    rw [tokens_cons_of_lead? hlead, tokens_cons_of_lead? hlead, map_unplaced_consPlain,
      map_unplaced_consPlain, ih _ (place + 1)]

/-- Whether no tag is in a text. -/
def IsTagless (text : Text) : Prop := ∀ token ∈ tokens 0 text, token.isText = true

/-- What is shown of a text, tags left out. -/
def visible (text : Text) : Text := (tokens 0 text).flatMap (shownPiece ·.text)

/-- Whether a text has a tag does not depend on where it stands. -/
theorem forall_isText_tokens_iff (position : Nat) {text : Text} :
    (∀ token ∈ tokens position text, token.isText = true) ↔ IsTagless text := by
  have hunplaced : ∀ tokens : List Token, (∀ token ∈ tokens, token.isText = true) ↔
      ∀ token ∈ tokens.map Token.unplaced, token.isText = true := by
    intro tokens
    simp only [List.forall_mem_map, Token.isText_unplaced]
  rw [IsTagless, hunplaced, hunplaced (tokens 0 text), map_unplaced_tokens position 0]

/-- What is shown of a text does not depend on where it stands. -/
theorem flatMap_shownPiece_tokens (position : Nat) (text : Text) :
    (tokens position text).flatMap (shownPiece ·.text) = visible text := by
  have hunplaced : ∀ tokens : List Token, tokens.flatMap (shownPiece ·.text) =
      (tokens.map Token.unplaced).flatMap (shownPiece ·.text) := by
    intro tokens
    simp only [List.flatMap_map, Token.text_unplaced]
  rw [visible, hunplaced, hunplaced (tokens 0 text), map_unplaced_tokens position 0]

theorem shownPiece_nil : shownPiece [] = [] := by
  rw [shownPiece, unprotect, Emoji.replaceCodes, List.filter_nil]

/-- Tokens that can be shown show the pieces of text among them. -/
theorem eq_of_showTokens {position : Nat} {opened tags : List OpenTag} {tokens : List Token} {shown : Text}
    (h : showTokens position opened tokens = .ok (shown, tags)) : shown = tokens.flatMap (shownPiece ·.text) := by
  induction tokens generalizing position opened shown tags with
  | nil => exact (Prod.mk.inj (Except.ok.inj h)).1.symm
  | cons token rest ih =>
    by_cases htext : token.isText = true
    · rw [← List.singleton_append, showTokens_append (List.forall_mem_singleton.mpr htext)] at h
      obtain ⟨⟨later, tags⟩, hlater, hshown⟩ := ok_of_map h
      rw [List.flatMap_singleton] at hshown
      rw [List.flatMap_cons, ← ih hlater]
      exact (Prod.mk.inj hshown).1.symm
    · cases token with
      | plain text => exact absurd rfl htext
      | literal text => exact absurd rfl htext
      | tag body place =>
        have hnothing : shownPiece (Token.tag body place).text = [] := shownPiece_nil
        rw [List.flatMap_cons, hnothing, List.nil_append]
        rw [showTokens] at h
        split at h
        · obtain ⟨⟨tag, opened⟩, _, h⟩ := ok_of_bind h
          obtain ⟨closed, _, h⟩ := ok_of_bind h
          obtain ⟨⟨later, tags⟩, hlater, hshown⟩ := ok_of_bind h
          obtain rfl := (Prod.mk.inj (Except.ok.inj hshown)).1
          exact ih hlater
        · obtain ⟨tag, _, h⟩ := ok_of_bind h
          exact ih h

/-- Whatever the console shows of a text is its visible part. -/
theorem eq_of_shown {text shown : Text} (h : StyleTag.shown text = .ok shown) : shown = visible text := by
  obtain ⟨⟨later, tags⟩, hlater, hshown⟩ := ok_of_bind h
  dsimp only at hshown
  split at hshown
  · cases hshown
  · obtain rfl := Except.ok.inj hshown
    exact eq_of_showTokens hlater

/-- A text without a tag is shown. -/
theorem shown_of_isTagless {text : Text} (h : IsTagless text) : StyleTag.shown text = .ok (visible text) := by
  have hshow := showTokens_append h [] 0 []
  rw [List.append_nil, flatMap_shownPiece_tokens, showTokens] at hshow
  rw [StyleTag.shown, hshow]
  simp [Except.map, bind, Except.bind, numberFault?, pure, Except.pure]

theorem head?_leadTokens (position slashes : Nat) (body : Text) (rest : List Token) (text : Text) :
    (leadTokens position slashes body ++ rest).head? ≠ some (.plain text) := by
  dsimp only [leadTokens]
  split <;> split <;> exact fun h => by cases h

/-- Backslashes and a tag are cut off from the text before them. -/
theorem tokens_append_tag {body : Text} (hbody : IsBody body) {text : Text}
    (htext : text.getLast? ≠ some '\\') (slashes position : Nat) (after : Text) :
    ∃ place position', tokens position (text ++ (Text.repeated slashes '\\' ++ '[' :: (body ++ ']' :: after))) =
      tokens position text ++ (leadTokens place slashes body ++ tokens position' after) := by
  induction text using lead_induction generalizing position with
  | nil =>
    rw [List.nil_append, tokens_nil, tokens_of_lead? (lead?_tag hbody slashes after)]
    exact ⟨_, _, rfl⟩
  | tag slashes' body' after' hbody' ih =>
    have hafter : after'.getLast? ≠ some '\\' :=
      getLast?_ne_of_suffix ⟨Text.repeated slashes' '\\' ++ '[' :: (body' ++ [']']), by simp⟩ htext
    obtain ⟨place, position', htokens⟩ := ih hafter (position + slashes' + body'.length + 2)
    have hsame : Text.repeated slashes' '\\' ++ '[' :: (body' ++ ']' :: after')
          ++ (Text.repeated slashes '\\' ++ '[' :: (body ++ ']' :: after)) =
        Text.repeated slashes' '\\' ++ '[' :: (body' ++ ']' ::
          (after' ++ (Text.repeated slashes '\\' ++ '[' :: (body ++ ']' :: after)))) := by simp
    rw [hsame, tokens_of_lead? (lead?_tag hbody' _ _), tokens_of_lead? (lead?_tag hbody' _ _), htokens]
    exact ⟨place, position', (List.append_assoc ..).symm⟩
  | char c rest hlead ih =>
    have hslashes : ']' ∉ Text.repeated slashes '\\' :=
      fun hmem => absurd (List.eq_of_mem_replicate hmem) (by decide)
    have hlonger := lead?_append_before_open hlead (List.cons_ne_nil c rest) htext hslashes
      (body ++ ']' :: after)
    obtain ⟨place, position', htokens⟩ := ih (getLast?_ne_of_suffix (List.suffix_cons c rest) htext)
      (position + 1)
    rw [List.cons_append] at hlonger ⊢
    rw [tokens_cons_of_lead? hlonger, tokens_cons_of_lead? hlead, htokens,
      consPlain_append c _ (head?_leadTokens place slashes body _)]
    exact ⟨place, position', rfl⟩

/-- Backslashes that no bracket follows are shown as they are. -/
theorem shownPiece_repeated_backslash (n : Nat) :
    shownPiece (Text.repeated n '\\') = Text.repeated n '\\' := by
  have hall : ∀ c ∈ Text.repeated n '\\', c = '\\' := fun c hc => List.eq_of_mem_replicate hc
  rw [shownPiece_eq, Emoji.replaceCodes_of_notMem fun hmem => absurd (hall _ hmem) (by decide)]
  · exact fun hpair => absurd (hall '[' (hpair.subset (by simp))) (by decide)
  · intro c hc
    rw [hall c hc]
    decide

/-- What is shown of a tag with backslashes before it. -/
def shownLead (slashes : Nat) (body : Text) : Text :=
  Text.repeated (slashes / 2) '\\' ++ if slashes % 2 = 1 then shownPiece ('[' :: (body ++ [']'])) else []

/-- A tag with backslashes before it has two pieces of text at most. -/
theorem flatMap_leadTokens {image : Text → Text} (himage : image [] = []) (position slashes : Nat)
    (body : Text) :
    (leadTokens position slashes body).flatMap (image ·.text) =
      image (Text.repeated (slashes / 2) '\\') ++
        if slashes % 2 = 1 then image ('[' :: (body ++ [']'])) else [] := by
  have hslashes : (if (Text.repeated (slashes / 2) '\\').isEmpty then []
      else [Token.literal (Text.repeated (slashes / 2) '\\')]).flatMap (image ·.text) =
        image (Text.repeated (slashes / 2) '\\') := by
    split
    · next hempty => rw [List.isEmpty_iff.mp hempty, himage, List.flatMap_nil]
    · rw [List.flatMap_singleton, Token.text]
  simp only [leadTokens, List.flatMap_append, hslashes, List.flatMap_singleton]
  split
  · rfl
  · rw [Token.text, himage]

theorem flatMap_shownPiece_leadTokens (position slashes : Nat) (body : Text) :
    (leadTokens position slashes body).flatMap (shownPiece ·.text) = shownLead slashes body := by
  rw [flatMap_leadTokens shownPiece_nil, shownPiece_repeated_backslash, shownLead]

/-- What is shown of a text does not depend on a tag behind it. -/
theorem visible_append_tag {body : Text} (hbody : IsBody body) {text : Text}
    (htext : text.getLast? ≠ some '\\') (slashes : Nat) (after : Text) :
    visible (text ++ (Text.repeated slashes '\\' ++ '[' :: (body ++ ']' :: after))) =
      visible text ++ (shownLead slashes body ++ visible after) := by
  obtain ⟨place, position, htokens⟩ := tokens_append_tag hbody htext slashes 0 after
  rw [visible, htokens, List.flatMap_append, List.flatMap_append, flatMap_shownPiece_tokens,
    flatMap_shownPiece_leadTokens, flatMap_shownPiece_tokens]

/-- A tag is lost, or the backslash that makes it plain text. -/
theorem weightOf_leadTokens_lt (position slashes : Nat) (body : Text) :
    weightOf ((leadTokens position slashes body).flatMap Token.text) <
      weightOf (Text.repeated slashes '\\' ++ '[' :: (body ++ [']'])) := by
  have hpieces := flatMap_leadTokens (show id [] = [] from rfl) position slashes body
  have hweight : weight '\\' = 10 := rfl
  have hpos := weight_pos '['
  simp only [id] at hpieces
  rw [hpieces]
  split <;> simp only [weightOf_append, weightOf_repeated, weightOf_cons, weightOf_nil, hweight] <;> omega

/-- Cutting a text at its tags makes it lighter unless there are none. -/
theorem isText_or_lighter (text : Text) (position : Nat) :
    OrLighter (∀ token ∈ tokens position text, token.isText = true)
      ((tokens position text).flatMap Token.text) text := by
  induction text using lead_induction generalizing position with
  | nil =>
    rw [tokens_nil]
    exact .inl ⟨List.forall_mem_nil _, rfl⟩
  | tag slashes body after hbody ih =>
    refine .inr ?_
    rw [tokens_of_lead? (lead?_tag hbody slashes after), List.flatMap_append]
    have hafter := (ih (position + slashes + body.length + 2)).weightOf_le
    have hsplit : Text.repeated slashes '\\' ++ '[' :: (body ++ ']' :: after) =
        Text.repeated slashes '\\' ++ '[' :: (body ++ [']']) ++ after := by simp
    have hlead := weightOf_leadTokens_lt position slashes body
    rw [hsplit, weightOf_append, weightOf_append]
    omega
  | char c rest hlead ih =>
    rw [tokens_cons_of_lead? hlead, flatMap_text_consPlain]
    obtain ⟨htagless, hsame⟩ | hlighter := ih (position + 1)
    · exact .inl ⟨isText_consPlain htagless, by rw [hsame]⟩
    · exact .inr (by simpa using hlighter)

/-- What is shown is what is meant, without a tag among it, or lighter. -/
def Within (written meant : Text) : Prop := OrLighter (IsTagless written) (visible written) meant

/-- A console shows what is meant exactly if that comes of pieces of text. -/
theorem Within.shown_iff {written meant : Text} (h : Within written meant) :
    StyleTag.shown written = .ok meant ↔ IsTagless written ∧ visible written = meant := by
  constructor
  · intro hshown
    have hvisible := (eq_of_shown hshown).symm
    exact ⟨OrLighter.of_eq h hvisible, hvisible⟩
  · rintro ⟨htagless, rfl⟩
    exact shown_of_isTagless htagless

theorem within_self (text : Text) : Within text text := by
  have hpieces : NoHeavier (visible text) ((tokens 0 text).flatMap Token.text) :=
    NoHeavier.flatMap fun token _ => noHeavier_shownPiece token.text
  exact (OrLighter.trans hpieces (isText_or_lighter text 0)).imp And.right

/-- The tokens of a text hold no other characters than the text. -/
theorem mem_of_mem_tokens {position : Nat} {text : Text} {token : Token}
    (htoken : token ∈ tokens position text) {c : Char} (hc : c ∈ token.text) : c ∈ text := by
  have hall : c ∈ (tokens position text).flatMap Token.text := List.mem_flatMap.mpr ⟨token, htoken, hc⟩
  clear htoken hc
  induction text using lead_induction generalizing position with
  | nil =>
    rw [tokens_nil] at hall
    exact hall
  | tag slashes body after hbody ih =>
    rw [tokens_of_lead? (lead?_tag hbody slashes after), List.flatMap_append, List.mem_append] at hall
    obtain hlead | hafter := hall
    · have hpieces := flatMap_leadTokens (show id [] = [] from rfl) position slashes body
      simp only [id] at hpieces
      rw [hpieces, List.mem_append] at hlead
      obtain hslash | htag := hlead
      · rw [List.eq_of_mem_replicate hslash]
        have hpos : slashes ≠ 0 := by
          rintro rfl
          exact absurd hslash List.not_mem_nil
        exact List.mem_append_left _ (List.mem_replicate.mpr ⟨hpos, rfl⟩)
      · split at htag
        · refine List.mem_append_right _ ?_
          have hwithin : '[' :: (body ++ [']']) <+: '[' :: (body ++ ']' :: after) := ⟨after, by simp⟩
          exact hwithin.mem htag
        · cases htag
    · have hmem := ih hafter
      simp [hmem]
  | char c' rest hlead ih =>
    rw [tokens_cons_of_lead? hlead, flatMap_text_consPlain, List.mem_cons] at hall
    obtain rfl | hrest := hall
    · exact List.mem_cons_self
    · exact List.mem_cons_of_mem c' (ih hrest)

/-- Nothing is shown but what stands in the text and signs, and of that nothing that a console drops. -/
theorem mem_visible {text : Text} {c : Char} (h : c ∈ visible text) :
    (c ∈ text ∨ Emoji.isSign c = true) ∧ isDropped c = false := by
  obtain ⟨token, htoken, hpiece⟩ := List.mem_flatMap.mp h
  obtain ⟨hc, hshown⟩ := List.mem_filter.mp hpiece
  refine ⟨(Emoji.mem_replaceCodes hc).imp_left fun hc => ?_, by simpa using hshown⟩
  exact mem_of_mem_tokens htoken (mem_of_mem_unprotect hc)

theorem isTagless_protect (text : Text) : IsTagless (protect text) := by
  rw [IsTagless, tokens_protect]
  exact isText_of_mem_cuts

theorem visible_protect (text : Text) : visible (protect text) = shownText text := by
  rw [visible, tokens_protect, shownText]

theorem within_protect (text : Text) : Within (protect text) text := by
  have hpieces : NoHeavier (visible (protect text)) ((cuts text).flatMap Token.text) := by
    rw [visible, tokens_protect]
    exact NoHeavier.flatMap fun token _ => noHeavier_shownPiece token.text
  rw [flatMap_text_cuts] at hpieces
  exact OrLighter.imp hpieces fun _ => isTagless_protect text

theorem shown_protect (text : Text) : StyleTag.shown (protect text) = .ok (shownText text) := by
  rw [shown_of_isTagless (isTagless_protect text), visible_protect]

theorem unprotect_cons_of_ne {c : Char} (hslash : c ≠ '\\') (text : Text) :
    unprotect (c :: text) = c :: unprotect text := by
  cases text with
  | nil => rfl
  | cons d rest =>
    rw [unprotect, if_neg]
    simp [hslash]

/-- A backslash before an opening bracket is not seen. -/
theorem shownPiece_backslash_open (text : Text) :
    shownPiece ('\\' :: '[' :: text) = shownPiece ('[' :: text) := by
  rw [shownPiece, shownPiece, unprotect_cons_of_ne (show '[' ≠ '\\' by decide)]
  rfl

/-- A character put before tokens starts the first of them. -/
theorem exists_consPlain (c : Char) (tokens : List Token) :
    ∃ text rest, consPlain c tokens = .plain (c :: text) :: rest := by
  match tokens with
  | [] => exact ⟨_, _, rfl⟩
  | .plain _ :: _ => exact ⟨_, _, rfl⟩
  | .literal _ :: _ => exact ⟨_, _, rfl⟩
  | .tag _ _ :: _ => exact ⟨_, _, rfl⟩

section Blank

theorem shownPiece_blank (text : Text) : shownPiece (' ' :: text) = ' ' :: shownPiece text := by
  rw [shownPiece, unprotect_cons_of_ne (by decide), Emoji.replaceCodes_cons_of_ne (by decide)]
  exact List.filter_cons_of_pos (by decide)

theorem tokens_blank (position : Nat) (text : Text) :
    tokens position (' ' :: text) = consPlain ' ' (tokens (position + 1) text) :=
  tokens_cons_of_lead? (by simp [lead?]) position

/-- A blank before a text is shown, and changes nothing about it. -/
theorem visible_blank (text : Text) : visible (' ' :: text) = ' ' :: visible text := by
  have hblank : shownPiece [' '] = [' '] := by rw [shownPiece_blank, shownPiece_nil]
  rw [visible, tokens_blank, ← flatMap_shownPiece_tokens 1]
  match tokens 1 text with
  | [] => simp [consPlain, Token.text, hblank]
  | .plain _ :: _ => simp [consPlain, Token.text, shownPiece_blank]
  | .literal _ :: _ => simp [consPlain, Token.text, hblank]
  | .tag _ _ :: _ => simp [consPlain, Token.text, hblank]

/-- A space in front makes no tag. -/
theorem isTagless_blank_iff {text : Text} : IsTagless (' ' :: text) ↔ IsTagless text := by
  rw [IsTagless, tokens_blank, ← forall_isText_tokens_iff 1]
  match tokens 1 text with
  | [] => simp [consPlain, Token.isText]
  | .plain _ :: _ => simp [consPlain, Token.isText]
  | .literal _ :: _ => simp [consPlain, Token.isText]
  | .tag _ _ :: _ => simp [consPlain, Token.isText]

theorem shown_blank_iff {text : Text} :
    StyleTag.shown (' ' :: text) = .ok (' ' :: text) ↔ StyleTag.shown text = .ok text := by
  rw [(within_self _).shown_iff, (within_self _).shown_iff, isTagless_blank_iff, visible_blank, List.cons.injEq,
    and_iff_right rfl]

end Blank

/-- With a backslash before its first bracket a text shows no more than the text itself may. -/
theorem within_backslash_open (rest : Text) : Within ('\\' :: '[' :: rest) ('[' :: rest) := by
  cases hlead : lead? ('\\' :: '[' :: rest) with
  | some found =>
    obtain ⟨slashes, body, after⟩ := found
    obtain ⟨hbody, hspelled⟩ := lead?_eq_some_iff.mp hlead
    obtain rfl : slashes = 1 := by
      match slashes, hspelled with
      | 0, hspelled => exact absurd (List.cons.inj hspelled).1 (by decide)
      | 1, _ => rfl
      | slashes + 2, hspelled =>
        exact absurd (List.cons.inj (List.cons.inj hspelled).2).1 (by decide)
    obtain rfl : rest = body ++ ']' :: after := (List.cons.inj (List.cons.inj hspelled).2).2
    have hvisible : visible ('\\' :: '[' :: (body ++ ']' :: after)) =
        shownPiece ('[' :: (body ++ [']'])) ++ visible after := by
      rw [visible, tokens_of_lead? hlead, List.flatMap_append, flatMap_shownPiece_tokens,
        flatMap_shownPiece_leadTokens]
      rfl
    have htagless : IsTagless after → IsTagless ('\\' :: '[' :: (body ++ ']' :: after)) := by
      intro h
      rw [IsTagless, tokens_of_lead? hlead]
      exact List.forall_mem_append.mpr ⟨isText_leadTokens 0 body, (forall_isText_tokens_iff _).mpr h⟩
    have hsplit : '[' :: (body ++ ']' :: after) = '[' :: (body ++ [']']) ++ after := by simp
    generalize '\\' :: '[' :: (body ++ ']' :: after) = written at hvisible htagless ⊢
    have hpiece := noHeavier_shownPiece ('[' :: (body ++ [']']))
    rw [Within, hvisible, hsplit]
    exact (OrLighter.append hpiece (within_self after)).imp fun h => htagless h.2
  | none =>
    have hopen : lead? ('[' :: rest) = none := by
      refine Option.eq_none_iff_forall_ne_some.mpr ?_
      rintro ⟨slashes, body, after⟩ hsome
      rw [lead?_cons_backslash hsome] at hlead
      cases hlead
    obtain ⟨text, later, hcons⟩ := exists_consPlain '[' (tokens 2 rest)
    have htokens : tokens 0 ('\\' :: '[' :: rest) = .plain ('\\' :: '[' :: text) :: later := by
      rw [tokens_cons_of_lead? hlead, tokens_cons_of_lead? hopen, hcons]
      rfl
    have hplain : tokens 1 ('[' :: rest) = .plain ('[' :: text) :: later := by
      rw [tokens_cons_of_lead? hopen, hcons]
    have hvisible : visible ('\\' :: '[' :: rest) = visible ('[' :: rest) := by
      rw [visible, htokens, ← flatMap_shownPiece_tokens 1, hplain, List.flatMap_cons, List.flatMap_cons,
        Token.text, Token.text, shownPiece_backslash_open]
    have htagless : IsTagless ('\\' :: '[' :: rest) ↔ IsTagless ('[' :: rest) := by
      rw [IsTagless, htokens, ← forall_isText_tokens_iff 1, hplain, List.forall_mem_cons,
        List.forall_mem_cons]
      rfl
    rw [Within, hvisible, htagless]
    exact within_self ('[' :: rest)

end TemplateAudit.StyleTag
