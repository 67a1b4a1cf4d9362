import TemplateAudit.Proofs.Console.Emoji
import TemplateAudit.Proofs.Console.StyleTag

namespace TemplateAudit.StyleTag

/-- The text of a token; a tag has none. -/
def Token.text : Token → Text
  | .plain text => text
  | .literal text => text
  | .tag _ _ => []

/-- Whether a token is text. -/
def Token.isText : Token → Bool
  | .plain _ => true
  | .literal _ => true
  | .tag _ _ => false

/-- What is shown of a piece of text between tags. -/
def shownPiece (text : Text) : Text :=
  (Emoji.replaceCodes (unprotect text)).filter (!Console.isDropped ·)

/-- What is shown of a protected text: its pieces one by one. -/
def shownText (text : Text) : Text := (cuts text).flatMap (shownPiece ·.text)

theorem isText_consPlain {c : Char} {tokens : List Token} (h : ∀ token ∈ tokens, token.isText = true) :
    ∀ token ∈ consPlain c tokens, token.isText = true := by
  match tokens, h with
  | [], _ => simp [consPlain, Token.isText]
  | .plain text :: rest, h => simpa [consPlain, Token.isText] using h
  | .literal text :: rest, h => simpa [consPlain, Token.isText] using h
  | .tag body position :: rest, h => exact absurd (h _ List.mem_cons_self) (by simp [Token.isText])

/-- The tokens of a protected tag are text. -/
theorem isText_leadTokens (slashes : Nat) (body : Text) :
    ∀ token ∈ leadTokens 0 (2 * slashes + 1) body, token.isText = true := by
  have hodd : (2 * slashes + 1) % 2 = 1 := by omega
  intro token htoken
  simp only [leadTokens, hodd, if_true, List.mem_append, List.mem_singleton] at htoken
  obtain htoken | rfl := htoken
  · split at htoken
    · exact absurd htoken List.not_mem_nil
    · rw [List.mem_singleton.mp htoken]
      rfl
  · rfl

/-- Nothing in a protected text is taken for a tag. -/
theorem isText_of_mem_cuts {text : Text} : ∀ token ∈ cuts text, token.isText = true := by
  induction text using lead_induction with
  | nil =>
    rw [cuts_nil]
    exact List.forall_mem_nil _
  | tag slashes body after hbody ih =>
    rw [cuts_of_lead? (lead?_tag hbody slashes after)]
    exact List.forall_mem_append.mpr ⟨isText_leadTokens slashes body, ih⟩
  | char c rest hlead ih =>
    rw [cuts_cons_of_lead? hlead]
    exact isText_consPlain ih

/-- A character put before tokens stands before their text. -/
theorem flatMap_text_consPlain {c : Char} {tokens : List Token} :
    (consPlain c tokens).flatMap Token.text = c :: tokens.flatMap Token.text := by
  match tokens with
  | [] => rfl
  | .plain text :: rest => rfl
  | .literal text :: rest => rfl
  | .tag body position :: rest => rfl

/-- Cutting a text loses nothing of it. -/
theorem flatMap_text_cuts (text : Text) : (cuts text).flatMap Token.text = text := by
  induction text using lead_induction with
  | nil => rw [cuts_nil, List.flatMap_nil]
  | tag slashes body after hbody ih =>
    have hodd : (2 * slashes + 1) % 2 = 1 := by omega
    have hhalf : (2 * slashes + 1) / 2 = slashes := by omega
    rw [cuts_of_lead? (lead?_tag hbody slashes after), List.flatMap_append, ih]
    simp only [leadTokens, hodd, if_true, hhalf, List.flatMap_append]
    cases slashes with
    | zero => simp [Text.repeated, Token.text]
    | succ slashes => simp [Text.repeated, Token.text, List.replicate_succ]
  | char c rest hlead ih => rw [cuts_cons_of_lead? hlead, flatMap_text_consPlain, ih]

/-- Every piece of a text stands in it. -/
theorem text_infix_of_mem_cuts {text : Text} {token : Token} (h : token ∈ cuts text) :
    token.text <:+: text := by
  obtain ⟨before, after, hcuts⟩ := List.append_of_mem h
  refine ⟨before.flatMap Token.text, after.flatMap Token.text, ?_⟩
  rw [← flatMap_text_cuts text, hcuts]
  simp

theorem OpenTag.covering_covering (first second : Text) (tag : OpenTag) :
    (tag.covering first).covering second = tag.covering (first ++ second) := by
  simp [OpenTag.covering, Bool.or_assoc]

theorem OpenTag.covering_nil : OpenTag.covering [] = id := by
  funext tag
  simp [OpenTag.covering]

/-- Text shows its pieces and leaves all tags open. -/
theorem showTokens_append {texts : List Token} (h : ∀ token ∈ texts, token.isText = true)
    (rest : List Token) (position : Nat) (opened : List OpenTag) :
    showTokens position opened (texts ++ rest) =
      (showTokens (position + (texts.flatMap (shownPiece ·.text)).length)
        (opened.map (OpenTag.covering (texts.flatMap (shownPiece ·.text)))) rest).map
          fun (later, tags) => (texts.flatMap (shownPiece ·.text) ++ later, tags) := by
  induction texts generalizing position opened with
  | nil =>
    simp only [List.nil_append, List.flatMap_nil, List.length_nil, Nat.add_zero, OpenTag.covering_nil,
      List.map_id]
    cases showTokens position opened rest <;> rfl
  | cons token texts ih =>
    obtain ⟨htoken, htexts⟩ := List.forall_mem_cons.mp h
    -- Plain and literal text go the same way.
    have hstep : showTokens position opened (token :: (texts ++ rest)) =
        (showTokens (position + (shownPiece token.text).length)
          (opened.map (OpenTag.covering (shownPiece token.text))) (texts ++ rest)).map
            fun (later, tags) => (shownPiece token.text ++ later, tags) := by
      cases token with
      | tag body place => exact absurd htoken (by simp [Token.isText])
      | plain text =>
        simp only [showTokens, Token.text, shownPiece]
        rfl
      | literal text =>
        simp only [showTokens, Token.text, shownPiece]
        rfl
    rw [List.cons_append, hstep, ih htexts, List.flatMap_cons, List.length_append, ← Nat.add_assoc,
      List.map_map]
    have hcovering : OpenTag.covering (texts.flatMap (shownPiece ·.text)) ∘
        OpenTag.covering (shownPiece token.text) =
          OpenTag.covering (shownPiece token.text ++ texts.flatMap (shownPiece ·.text)) :=
      funext fun tag => OpenTag.covering_covering _ _ tag
    rw [hcovering]
    cases showTokens _ _ rest with
    | error error => rfl
    | ok shown => simp [Except.map]

/-- A style that tags can name as it is. -/
structure IsStyle (style : Text) : Prop where
  body : IsBody style
  no_slash : style.head? ≠ some '/'
  no_action : style.head? ≠ some '@'
  no_parameters : '=' ∉ style
  trimmed : style.trim = style
  canonical : Style.canonical style = .ok style

theorem styleName_of_notMem {body : Text} (h : '=' ∉ body) : styleName body = body := by
  refine List.takeWhile_eq_self_iff.mpr fun c hc => ?_
  simp only [bne_iff_ne, ne_eq]
  rintro rfl
  exact h hc

theorem parameters?_of_notMem {body : Text} (h : '=' ∉ body) : parameters? body = none := by
  obtain ⟨_, hdrop⟩ | ⟨after, _, hsplit, _⟩ := Text.search_cases '=' body
  · rw [parameters?, hdrop]
  · exact absurd (hsplit ▸ List.mem_append_right _ List.mem_cons_self) h

theorem IsStyle.ne_nil {style : Text} (h : IsStyle style) : style ≠ [] := by
  rintro rfl
  obtain ⟨c, hc, _⟩ := h.body.starts
  cases hc

theorem IsStyle.numberFault? {style : Text} (h : IsStyle style) : Style.numberFault? style = none := by
  have hcanonical := h.canonical
  unfold Style.canonical at hcanonical
  unfold Style.numberFault?
  split at hcanonical <;> simp_all

theorem IsStyle.isBody_closing {style : Text} (h : IsStyle style) : IsBody ('/' :: style) := by
  refine ⟨⟨'/', rfl, by decide⟩, ?_, ?_⟩
  · simpa using h.body.no_open
  · simpa using h.body.no_close

/-- Opening a style, showing text and closing the style again leaves nothing but the text. -/
theorem showTokens_span {style : Text} (hstyle : IsStyle style) {texts : List Token}
    (htexts : ∀ token ∈ texts, token.isText = true) (place place' position : Nat) (rest : List Token) :
    ∃ tag : OpenTag, tag.style = style ∧ ∃ position',
      showTokens position [] (.tag style place :: (texts ++ .tag ('/' :: style) place' :: rest)) =
        (showTokens position' [] rest).map fun (later, tags) =>
          (texts.flatMap (shownPiece ·.text) ++ later, tag :: tags) := by
  have hopening : ∀ position, opening position style = .ok ⟨style, none, position, false⟩ := by
    intro position
    rw [opening, styleName_of_notMem hstyle.no_parameters, parameters?_of_notMem hstyle.no_parameters,
      hstyle.canonical]
    rfl
  have hclosing : ∀ tag : OpenTag, tag.name = style →
      closing [tag] ('/' :: style) place' = .ok (tag, []) := by
    intro tag htag
    have hname : styleName ('/' :: style) = '/' :: style :=
      styleName_of_notMem (by simpa using hstyle.no_parameters)
    have hempty : style.isEmpty = false := by simpa using hstyle.ne_nil
    simp [closing, hname, hstyle.trimmed, hempty, hstyle.canonical, htag, Except.mapError, bind,
      Except.bind]
  have hclose : ∀ tag : OpenTag, tag.name = style → tag.close = .ok [tag] := by
    intro tag htag
    have haction : tag.hasAction = false := by simpa [OpenTag.hasAction, htag] using hstyle.no_action
    rw [OpenTag.close, haction]
    rfl
  let tag := (OpenTag.mk style none position false).covering (texts.flatMap (shownPiece ·.text))
  refine ⟨tag, rfl, position + (texts.flatMap (shownPiece ·.text)).length, ?_⟩
  rw [showTokens, if_neg hstyle.no_slash, hopening]
  simp only [bind, Except.bind]
  rw [showTokens_append htexts, List.map_singleton, showTokens, List.head?_cons, if_pos rfl,
    hclosing tag rfl]
  simp only [bind, Except.bind]
  rw [hclose tag rfl]
  cases showTokens _ [] rest with
  | error error => rfl
  | ok shown => rfl

/-- Nothing is wrong with a text whose tags have no faulty number. -/
theorem numberFault?_eq_none {tags : List OpenTag} (h : ∀ tag ∈ tags, Style.numberFault? tag.style = none)
    (text : Text) : numberFault? text tags = none := by
  unfold numberFault?
  rw [List.findSome?_eq_none_iff]
  intro tag htag
  rw [List.mem_mergeSort, List.mem_reverse] at htag
  split at htag
  · exact h tag (List.mem_filter.mp htag).1
  · exact h tag htag

end TemplateAudit.StyleTag
