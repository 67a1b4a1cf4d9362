import Mathlib
import TemplateAudit.Proofs.Console.Visible

namespace TemplateAudit.StyleTag

open Console

/-- A part of console text, in front of a tag: how it is written and what it is meant to show. The
    backslashes that lead up to the tag are counted apart. -/
structure Piece where
  written : Text
  meant : Text
  slashes : Nat
  kept : Nat

namespace Piece

/-- What the part is meant to show, with the backslashes. -/
def content (piece : Piece) : Text := piece.meant ++ Text.repeated piece.kept '\\'

/-- The tag behind the part takes away every other backslash, and all of it counts. -/
structure IsSound (piece : Piece) : Prop where
  end_not_slash : piece.written.getLast? ≠ some '\\'
  within : Within piece.written piece.meant
  slashes : piece.slashes = 2 * piece.kept ∨ piece.slashes / 2 < piece.kept

/-- The part is shown as it is meant. -/
structure IsKept (piece : Piece) : Prop where
  slashes : piece.slashes = 2 * piece.kept
  tagless : IsTagless piece.written
  visible : visible piece.written = piece.meant

/-- What is shown of a part and a light tag behind it is lighter than what is meant, unless the part is
    kept. -/
theorem IsSound.isKept_or_lighter {piece : Piece} (h : piece.IsSound) {body : Text}
    (hbody : weightOf ('[' :: (body ++ [']'])) < 10) :
    OrLighter piece.IsKept (StyleTag.visible piece.written ++ shownLead piece.slashes body) piece.content := by
  have hslash : weight '\\' = 10 := rfl
  have hwithin : OrLighter _ _ _ := h.within
  obtain heven | hfewer := h.slashes
  · have hlead : shownLead piece.slashes body = Text.repeated piece.kept '\\' := by
      rw [shownLead, heven, Nat.mul_mod_right, Nat.mul_div_cancel_left _ (by decide)]
      simp
    rw [hlead, content]
    obtain ⟨htagless, hsame⟩ | hlighter := hwithin
    · exact .inl ⟨⟨heven, htagless, hsame⟩, by rw [hsame]⟩
    · exact .inr (by simpa only [weightOf_append] using Nat.add_lt_add_right hlighter _)
  · have htag := (noHeavier_shownPiece ('[' :: (body ++ [']']))).weightOf_le
    have hlead : weightOf (shownLead piece.slashes body) < 10 * (piece.slashes / 2) + 10 := by
      rw [shownLead]
      split <;> simp only [weightOf_append, weightOf_repeated, weightOf_nil, hslash] <;> omega
    have hle := hwithin.weightOf_le
    refine .inr ?_
    simp only [content, weightOf_append, weightOf_repeated, hslash]
    omega

end Piece

/-- A part of console text in a style, and the part before it. -/
structure Marked where
  before : Piece
  style : Text
  inner : Piece

/-- The style is one, and all backslashes that lead up to its tags are counted apart. -/
structure Marked.IsSpan (marked : Marked) : Prop where
  style : IsStyle marked.style
  before : marked.before.written.getLast? ≠ some '\\'
  inner : marked.inner.written.getLast? ≠ some '\\'

/-- The style is one, its tags are light, and both parts are sound. -/
structure Marked.IsSound (marked : Marked) : Prop where
  style : IsStyle marked.style
  light : weightOf ('[' :: ('/' :: marked.style ++ [']'])) < 10
  before : marked.before.IsSound
  inner : marked.inner.IsSound

theorem Marked.IsSound.isSpan {marked : Marked} (h : marked.IsSound) : marked.IsSpan :=
  ⟨h.style, h.before.end_not_slash, h.inner.end_not_slash⟩

/-- Both parts are shown as they are meant. -/
def Marked.IsKept (marked : Marked) : Prop := marked.before.IsKept ∧ marked.inner.IsKept

/-- A part with backslashes and a tag behind it. -/
def tagged (piece : Piece) (body rest : Text) : Text :=
  piece.written ++ (Text.repeated piece.slashes '\\' ++ '[' :: (body ++ ']' :: rest))

/-- Console text with parts in styles and a last part. -/
def markup : List Marked → Text → Text
  | [], last => last
  | marked :: rest, last =>
    tagged marked.before marked.style (tagged marked.inner ('/' :: marked.style) (markup rest last))

/-- What the text is meant to show. -/
def content : List Marked → Text → Text
  | [], last => last
  | marked :: rest, last => marked.before.content ++ (marked.inner.content ++ content rest last)

theorem visible_tagged {piece : Piece} (h : piece.written.getLast? ≠ some '\\') {body : Text}
    (hbody : IsBody body) (rest : Text) :
    visible (tagged piece body rest) = visible piece.written ++ shownLead piece.slashes body ++ visible rest := by
  rw [tagged, visible_append_tag hbody h, List.append_assoc]

/-- What is shown of a text with styles is lighter than what is meant, unless all of it is kept. -/
theorem isKept_or_lighter {spans : List Marked} (hspans : ∀ marked ∈ spans, marked.IsSound)
    {last meant : Text} (hlast : Within last meant) :
    OrLighter ((∀ marked ∈ spans, marked.IsKept) ∧ IsTagless last ∧ visible last = meant)
      (visible (markup spans last)) (content spans meant) := by
  induction spans with
  | nil =>
    exact Or.imp_left (fun hkept => ⟨⟨List.forall_mem_nil _, hkept⟩, hkept.2⟩) hlast
  | cons marked rest ih =>
    obtain ⟨hmarked, hrest⟩ := List.forall_mem_cons.mp hspans
    have hopening : weightOf ('[' :: (marked.style ++ [']'])) < 10 := by
      have hlight := hmarked.light
      simp only [List.cons_append, weightOf_cons] at hlight ⊢
      omega
    have hbefore := hmarked.before.isKept_or_lighter hopening
    have hinner := hmarked.inner.isKept_or_lighter hmarked.light
    rw [markup, content, visible_tagged hmarked.before.end_not_slash hmarked.style.body,
      visible_tagged hmarked.inner.end_not_slash hmarked.style.isBody_closing]
    refine (hbefore.append (hinner.append (ih hrest))).imp ?_
    rintro ⟨hbefore, hinner, hlater, hlast⟩
    exact ⟨List.forall_mem_cons.mpr ⟨⟨hbefore, hinner⟩, hlater⟩, hlast⟩

/-- Of an even number of backslashes before a tag one half is text. -/
theorem exists_leadTokens_even (position n : Nat) (body : Text) :
    ∃ texts place, (∀ token ∈ texts, token.isText = true) ∧
      texts.flatMap (shownPiece ·.text) = Text.repeated n '\\' ∧
      leadTokens position (2 * n) body = texts ++ [.tag body place] := by
  have hnotOdd : ¬ 2 * n % 2 = 1 := by omega
  have hhalf : 2 * n / 2 = n := by omega
  rw [leadTokens, if_neg hnotOdd, hhalf]
  refine ⟨_, _, ?_, ?_, rfl⟩
  · split
    · exact List.forall_mem_nil _
    · exact List.forall_mem_singleton.mpr rfl
  · split
    · next hempty => exact (List.isEmpty_iff.mp hempty).symm
    · rw [List.flatMap_singleton, Token.text, shownPiece_repeated_backslash]

/-- A part that is kept is read as text up to the tag behind it. -/
theorem tokens_tagged {piece : Piece} (h : piece.written.getLast? ≠ some '\\') (hkept : piece.IsKept)
    {body : Text} (hbody : IsBody body) (position : Nat) (rest : Text) :
    ∃ texts place position', (∀ token ∈ texts, token.isText = true) ∧
      texts.flatMap (shownPiece ·.text) = piece.content ∧
      tokens position (tagged piece body rest) = texts ++ .tag body place :: tokens position' rest := by
  obtain ⟨start, position', htokens⟩ := tokens_append_tag hbody h piece.slashes position rest
  obtain ⟨slashes, place, hslashes, hshown, hlead⟩ := exists_leadTokens_even start piece.kept body
  rw [hkept.slashes, hlead] at htokens
  refine ⟨tokens position piece.written ++ slashes, place, position', ?_, ?_, ?_⟩
  · exact List.forall_mem_append.mpr ⟨(forall_isText_tokens_iff _).mpr hkept.tagless, hslashes⟩
  · rw [List.flatMap_append, flatMap_shownPiece_tokens, hkept.visible, hshown, Piece.content]
  · rw [tagged, hkept.slashes, htokens]
    simp

/-- A text whose parts are all kept can be shown, since every tag that puts a style on is followed by the one
    that takes it off. -/
theorem showTokens_markup {spans : List Marked} (hspans : ∀ marked ∈ spans, marked.IsSpan)
    (hkept : ∀ marked ∈ spans, marked.IsKept) {last : Text} (hlast : IsTagless last) (position start : Nat) :
    ∃ tags, showTokens position [] (tokens start (markup spans last)) =
        .ok (content spans (visible last), tags) ∧ ∀ tag ∈ tags, Style.numberFault? tag.style = none := by
  induction spans generalizing position start with
  | nil =>
    have hshow := showTokens_append ((forall_isText_tokens_iff start).mpr hlast) [] position []
    rw [List.append_nil, flatMap_shownPiece_tokens, showTokens] at hshow
    refine ⟨[], ?_, List.forall_mem_nil _⟩
    rw [markup, hshow]
    simp [Except.map, content]
  | cons marked rest ih =>
    obtain ⟨hmarked, hrest⟩ := List.forall_mem_cons.mp hspans
    obtain ⟨⟨hbefore, hinner⟩, hkeptRest⟩ := List.forall_mem_cons.mp hkept
    obtain ⟨texts, place, start', htexts, hshown, htokens⟩ := tokens_tagged hmarked.before hbefore
      hmarked.style.body start (tagged marked.inner ('/' :: marked.style) (markup rest last))
    obtain ⟨texts', place', start'', htexts', hshown', htokens'⟩ := tokens_tagged hmarked.inner hinner
      hmarked.style.isBody_closing start' (markup rest last)
    obtain ⟨tag, htag, position', hspan⟩ := showTokens_span hmarked.style htexts' place place'
      (position + (texts.flatMap (shownPiece ·.text)).length) (tokens start'' (markup rest last))
    obtain ⟨tags, hlater, hfaults⟩ := ih hrest hkeptRest position' start''
    refine ⟨tag :: tags, ?_, List.forall_mem_cons.mpr ⟨?_, hfaults⟩⟩
    · rw [markup, htokens, htokens', showTokens_append htexts, List.map_nil, hspan, hlater, hshown, hshown']
      rfl
    · rw [htag]
      exact hmarked.style.numberFault?

/-- A text whose parts are all kept is shown without its tags. -/
theorem shown_markup {spans : List Marked} (hspans : ∀ marked ∈ spans, marked.IsSpan)
    (hkept : ∀ marked ∈ spans, marked.IsKept) {last : Text} (hlast : IsTagless last) :
    StyleTag.shown (markup spans last) = .ok (content spans (visible last)) := by
  obtain ⟨tags, hshow, hfaults⟩ := showTokens_markup hspans hkept hlast 0 0
  simp only [StyleTag.shown, hshow, bind, Except.bind, numberFault?_eq_none hfaults, pure, Except.pure]

/-- A text with styles is shown as it is meant exactly if each of its parts is. -/
theorem shown_markup_iff {spans : List Marked} (hspans : ∀ marked ∈ spans, marked.IsSound)
    {last meant : Text} (hlast : Within last meant) :
    StyleTag.shown (markup spans last) = .ok (content spans meant) ↔
      (∀ marked ∈ spans, marked.IsKept) ∧ StyleTag.shown last = .ok meant := by
  rw [hlast.shown_iff]
  constructor
  · intro hshown
    exact (isKept_or_lighter hspans hlast).of_eq (eq_of_shown hshown).symm
  · rintro ⟨hkept, htagless, rfl⟩
    exact shown_markup (fun marked hmarked => (hspans marked hmarked).isSpan) hkept htagless

/-- A text without the backslashes at its end. -/
def core (text : Text) : Text := text.dropWhileEnd (· == '\\')

/-- How many backslashes stand at the end of a text. -/
def endSlashes (text : Text) : Nat := text.length - (core text).length

theorem getLast?_core (text : Text) : (core text).getLast? ≠ some '\\' := by
  obtain ⟨_, _, _, hlast⟩ := Text.exists_dropWhileEnd (· == '\\') text
  exact fun h => absurd (hlast '\\' h) (by decide)

/-- A text is its core and the backslashes behind that. -/
theorem core_append (text : Text) : core text ++ Text.repeated (endSlashes text) '\\' = text := by
  obtain ⟨tail, hsplit, htail, _⟩ := Text.exists_dropWhileEnd (· == '\\') text
  have hlength : tail.length = endSlashes text := by
    have h := congrArg List.length hsplit
    rw [List.length_append] at h
    rw [endSlashes, core]
    omega
  have hslashes : tail = Text.repeated (endSlashes text) '\\' := by
    rw [← hlength]
    exact List.eq_replicate_of_mem fun c hc => by simpa using htail c hc
  rw [← hslashes]
  exact hsplit.symm

theorem repeated_succ_backslash (n : Nat) :
    Text.repeated (n + 1) '\\' = Text.repeated n '\\' ++ ['\\'] := List.replicate_succ'

/-- A text has no backslashes to count apart exactly if it does not end in one. -/
theorem endSlashes_eq_zero_iff {text : Text} : endSlashes text = 0 ↔ text.getLast? ≠ some '\\' := by
  have hsplit := core_append text
  constructor
  · intro hnone
    rw [hnone, Text.repeated, List.replicate_zero, List.append_nil] at hsplit
    rw [← hsplit]
    exact getLast?_core text
  · intro hlast
    by_contra hsome
    obtain ⟨n, hn⟩ := Nat.exists_eq_succ_of_ne_zero hsome
    rw [hn, repeated_succ_backslash, ← List.append_assoc] at hsplit
    rw [← hsplit, List.getLast?_concat] at hlast
    exact hlast rfl

theorem core_eq_self {text : Text} (h : text.getLast? ≠ some '\\') : core text = text := by
  have hsplit := core_append text
  rwa [endSlashes_eq_zero_iff.mpr h, Text.repeated, List.replicate_zero, List.append_nil] at hsplit

/-- A text ends in a lone backslash if exactly one stands at its end. -/
theorem endsInLoneBackslash_eq (text : Text) : endsInLoneBackslash text = decide (endSlashes text = 1) := by
  have hsplit := core_append text
  have hcore := getLast?_core text
  match hn : endSlashes text with
  | 0 =>
    have hlast := endSlashes_eq_zero_iff.mp hn
    simp [endsInLoneBackslash, hlast]
  | 1 =>
    rw [hn, repeated_succ_backslash, Text.repeated, List.replicate_zero, List.nil_append] at hsplit
    rw [← hsplit]
    simpa [endsInLoneBackslash] using hcore
  | n + 2 =>
    rw [hn, repeated_succ_backslash, repeated_succ_backslash, ← List.append_assoc, ← List.append_assoc] at hsplit
    rw [← hsplit]
    simp [endsInLoneBackslash]

/-- A text made safe is protected up to the backslashes at its end, of which one alone is doubled. -/
theorem escape_eq_core (text : Text) :
    escape text = protect (core text)
      ++ Text.repeated (if endSlashes text = 1 then 2 else endSlashes text) '\\' := by
  have hclose : ∀ n, ']' ∉ Text.repeated n '\\' :=
    fun n hmem => absurd (List.eq_of_mem_replicate hmem) (by decide)
  have hend : text ++ (if endsInLoneBackslash text then ['\\'] else []) =
      core text ++ Text.repeated (if endSlashes text = 1 then 2 else endSlashes text) '\\' := by
    have hsplit := core_append text
    rw [endsInLoneBackslash_eq]
    by_cases hlone : endSlashes text = 1
    · rw [hlone] at hsplit
      rw [if_pos (by simpa using hlone), if_pos hlone, repeated_succ_backslash, ← List.append_assoc, hsplit]
    · simp [hlone, hsplit]
  rw [escape_eq, hend, protect_append (hclose _)]

namespace Piece

/-- Text that is written as it is. -/
def ofText (text : Text) : Piece := ⟨core text, core text, endSlashes text, endSlashes text⟩

/-- Text that is made safe. -/
def ofValue (value : Text) : Piece :=
  ⟨protect (core value), core value, if endSlashes value = 1 then 2 else endSlashes value, endSlashes value⟩

/-- Protected text, with what the console shows of it, whatever that is. -/
def safe (text : Text) : Piece := ⟨protect text, shownText text, 0, 0⟩

variable (text : Text)

theorem content_ofText : (ofText text).content = text := core_append text

theorem content_ofValue : (ofValue text).content = text := core_append text

theorem isSound_ofText : (ofText text).IsSound where
  end_not_slash := getLast?_core text
  within := within_self (core text)
  slashes := by
    show endSlashes text = 2 * endSlashes text ∨ endSlashes text / 2 < endSlashes text
    omega

/-- Text that is made safe shows nothing heavier than itself. -/
theorem isSound_ofValue : (ofValue text).IsSound where
  end_not_slash := by
    show (protect (core text)).getLast? ≠ some '\\'
    rw [getLast?_protect]
    exact getLast?_core text
  within := within_protect (core text)
  slashes := by
    show (if endSlashes text = 1 then 2 else endSlashes text) = 2 * endSlashes text ∨
      (if endSlashes text = 1 then 2 else endSlashes text) / 2 < endSlashes text
    split <;> omega

/-- Text in front of a tag is kept if it is kept by itself and does not end in a backslash. -/
theorem isKept_ofText_iff :
    (ofText text).IsKept ↔ StyleTag.shown text = .ok text ∧ text.getLast? ≠ some '\\' := by
  rw [(within_self text).shown_iff]
  constructor
  · intro hkept
    have hslashes : endSlashes text = 2 * endSlashes text := hkept.slashes
    have hlast : text.getLast? ≠ some '\\' := endSlashes_eq_zero_iff.mp (by omega)
    have htagless := hkept.tagless
    have hvisible := hkept.visible
    simp only [ofText, core_eq_self hlast] at htagless hvisible
    exact ⟨⟨htagless, hvisible⟩, hlast⟩
  · rintro ⟨⟨htagless, hvisible⟩, hlast⟩
    constructor
    case slashes => simp [ofText, endSlashes_eq_zero_iff.mpr hlast]
    case tagless => rwa [ofText, core_eq_self hlast]
    case visible => rwa [ofText, core_eq_self hlast]

theorem content_safe : (safe text).content = shownText text := List.append_nil _

/-- Of protected text everything counts as kept, since it is measured by what is shown of it. -/
theorem isKept_safe : (safe text).IsKept := ⟨rfl, isTagless_protect text, visible_protect text⟩

variable {text} in
theorem getLast?_written_safe (h : text.getLast? ≠ some '\\') : (safe text).written.getLast? ≠ some '\\' := by
  rwa [safe, getLast?_protect]

variable {text} in
theorem isSound_safe (h : text.getLast? ≠ some '\\') : (safe text).IsSound where
  end_not_slash := getLast?_written_safe h
  within := .inl ⟨isTagless_protect text, visible_protect text⟩
  slashes := .inl rfl

/-- Text made safe in front of a tag is kept if one backslash at most stands at its end and no other character
    of it means anything to the console. -/
theorem isKept_ofValue_iff :
    (ofValue text).IsKept ↔ endSlashes text ≤ 1 ∧ shownText (core text) = core text := by
  have hslashes : (if endSlashes text = 1 then 2 else endSlashes text) = 2 * endSlashes text ↔
      endSlashes text ≤ 1 := by
    split <;> omega
  rw [← hslashes, ← visible_protect]
  exact ⟨fun h => ⟨h.slashes, h.visible⟩, fun h => ⟨h.1, isTagless_protect _, h.2⟩⟩

end Piece

theorem tagged_of_no_slashes {piece : Piece} (h : piece.slashes = 0) (body rest : Text) :
    tagged piece body rest = piece.written ++ '[' :: (body ++ ']' :: rest) := by
  rw [tagged, h]
  rfl

theorem tagged_ofText (text body rest : Text) :
    tagged (.ofText text) body rest = text ++ '[' :: (body ++ ']' :: rest) := by
  conv_rhs => rw [← core_append text, List.append_assoc]
  rfl

theorem tagged_ofValue (value body rest : Text) :
    tagged (.ofValue value) body rest = escape value ++ '[' :: (body ++ ']' :: rest) := by
  rw [escape_eq_core, List.append_assoc]
  rfl

/-- A piece of text and the text in a style behind it. -/
structure Span where
  before : Text
  style : Text
  inner : Text

/-- A span whose tags are tags: the style is one, and no backslash leads up to a tag. -/
structure Span.IsSound (span : Span) : Prop where
  style : IsStyle span.style
  before : span.before.getLast? ≠ some '\\'
  inner : span.inner.getLast? ≠ some '\\'

/-- Console text with spans in styles and a last piece of text. -/
def styledText : List Span → Text → Text
  | [], last => protect last
  | span :: rest, last =>
    protect span.before ++ '[' :: (span.style ++ ']' :: (protect span.inner
      ++ '[' :: ('/' :: span.style ++ ']' :: styledText rest last)))

/-- What is shown of styled text. -/
def shownSpans : List Span → Text → Text
  | [], last => shownText last
  | span :: rest, last => shownText span.before ++ shownText span.inner ++ shownSpans rest last

/-- A span with its parts made safe. -/
def Span.marked (span : Span) : Marked := ⟨.safe span.before, span.style, .safe span.inner⟩

/-- Styled text is console text in which every part is protected. -/
theorem styledText_eq_markup (spans : List Span) (last : Text) :
    styledText spans last = markup (spans.map Span.marked) (protect last) := by
  induction spans with
  | nil => rfl
  | cons span rest ih =>
    have hbefore : (Piece.safe span.before).slashes = 0 := rfl
    have hinner : (Piece.safe span.inner).slashes = 0 := rfl
    rw [styledText, ih, List.map_cons, Span.marked, markup, tagged_of_no_slashes hbefore,
      tagged_of_no_slashes hinner]
    rfl

/-- What styled text means is what is shown of its spans. -/
theorem content_spans (spans : List Span) (last : Text) :
    content (spans.map Span.marked) (shownText last) = shownSpans spans last := by
  induction spans with
  | nil => rfl
  | cons span rest ih =>
    rw [List.map_cons, content, ih, Span.marked, Piece.content_safe, Piece.content_safe, shownSpans,
      List.append_assoc]

/-- Styled text is shown without its tags. -/
theorem shown_styledText {spans : List Span} (hspans : ∀ span ∈ spans, span.IsSound) (last : Text) :
    StyleTag.shown (styledText spans last) = .ok (shownSpans spans last) := by
  have hmarked : ∀ marked ∈ spans.map Span.marked, marked.IsSpan ∧ marked.IsKept := by
    rw [List.forall_mem_map]
    intro span hspan
    obtain ⟨hstyle, hbefore, hinner⟩ := hspans span hspan
    exact ⟨⟨hstyle, Piece.getLast?_written_safe hbefore, Piece.getLast?_written_safe hinner⟩,
      Piece.isKept_safe span.before, Piece.isKept_safe span.inner⟩
  rw [styledText_eq_markup, ← content_spans, ← visible_protect]
  exact shown_markup (fun marked h => (hmarked marked h).1) (fun marked h => (hmarked marked h).2)
    (isTagless_protect last)

end TemplateAudit.StyleTag
