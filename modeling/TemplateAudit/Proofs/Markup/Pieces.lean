import TemplateAudit.Proofs.Markup.Layout
import TemplateAudit.Proofs.Markup.Shift

namespace TemplateAudit

theorem plainTags_nil : plainTags [] = [] := by rw [plainTags, tagsBy]

/-- Wherever the piece stands and whatever follows it, the walk arrives at its end, having found `tags`
    on the way. -/
def WalksThrough (piece : Text) (tags : List Tag) : Prop :=
  ∀ text, plainTags (piece ++ text) = tags ++ (plainTags text).map (Tag.shift piece.length)

namespace WalksThrough

theorem plainTags_eq {piece : Text} {tags : List Tag} (h : WalksThrough piece tags) :
    plainTags piece = tags := by
  have hpiece := h []
  rw [List.append_nil, plainTags_nil, List.map_nil, List.append_nil] at hpiece
  exact hpiece

theorem nil : WalksThrough [] [] := by
  intro text
  have hsame := plainTags_shift 0 text
  rw [← plainTags] at hsame
  exact hsame

/-- Pieces follow one another, the tags of the second one further on by the length of the first. -/
theorem append {piece piece' : Text} {tags tags' : List Tag} (h : WalksThrough piece tags)
    (h' : WalksThrough piece' tags') :
    WalksThrough (piece ++ piece') (tags ++ tags'.map (Tag.shift piece.length)) := by
  intro text
  have hshift : (Tag.shift piece.length ∘ Tag.shift piece'.length) =
      Tag.shift (piece.length + piece'.length) := by
    funext tag
    rw [Function.comp_apply, Tag.shift_shift, Nat.add_comm]
  rw [List.append_assoc, h, h', List.map_append, List.map_map, hshift, List.length_append,
    List.append_assoc]

/-- A stop that lies at the end of the piece. -/
theorem of_stop {piece : Text} (h : ∀ text, Stop.of (piece ++ text) = .advance piece.length) :
    WalksThrough piece [] := by
  intro text
  rw [plainTags, tagsBy_eq_stop, h]
  simp only [List.drop_left, Nat.zero_add, List.nil_append]
  exact plainTags_shift piece.length text

end WalksThrough

/-- A character other than `<` is a piece without a tag. -/
theorem walksThrough_of_ne_open {c : Char} (hc : c ≠ '<') : WalksThrough [c] [] := by
  intro text
  cases text with
  | nil =>
    have hsingle : plainTags [c] = [] := by rw [plainTags, tagsBy]
    rw [List.append_nil, hsingle, plainTags_nil]
    rfl
  | cons next rest =>
    have hstop : Stop.of (c :: next :: rest) = .advance 1 := by
      rw [Stop.of, if_pos (by simpa using hc)]
    rw [List.singleton_append, plainTags, tagsBy_eq_stop, hstop]
    exact plainTags_shift 1 (next :: rest)

/-- Text without `<` holds no tag and hides none. -/
theorem walksThrough_of_no_open {piece : Text} (h : '<' ∉ piece) : WalksThrough piece [] := by
  induction piece with
  | nil => exact .nil
  | cons c rest ih =>
    obtain ⟨hc, hrest⟩ := not_or.mp (mt List.mem_cons.mpr h)
    exact (walksThrough_of_ne_open (Ne.symm hc)).append (ih hrest)

/-- What a text and its tail begin with ends in the text, or reaches into the tail. -/
theorem Text.prefix_append_cases {needle text tail : Text} (h : needle <+: text ++ tail) :
    needle <+: text ∨ ∃ extra, extra ≠ [] ∧ needle = text ++ extra ∧ extra <+: tail := by
  obtain hshort | ⟨extra, rfl⟩ := List.prefix_or_prefix_of_prefix h (List.prefix_append text tail)
  · exact .inl hshort
  · by_cases hextra : extra = []
    · rw [hextra, List.append_nil]
      exact .inl List.prefix_rfl
    · exact .inr ⟨extra, hextra, rfl, (List.prefix_append_right_inj text).mp h⟩

/-- A search finds what ends in a character that nothing of it holds before, right behind a text in
    which it does not occur. -/
theorem Text.splitAtFirst?_append_needle {stem body : Text} {mark : Char} (hstem : mark ∉ stem)
    (hbody : ¬ stem ++ [mark] <:+: body) (rest : Text) :
    Text.splitAtFirst? (stem ++ [mark]) (body ++ (stem ++ [mark] ++ rest)) = some (body, rest) := by
  induction body with
  | nil =>
    cases htext : stem ++ [mark] ++ rest with
    | nil => simp at htext
    | cons c tail =>
      have hprefix : (stem ++ [mark]).isPrefixOf (c :: tail) = true := by
        rw [← htext, List.isPrefixOf_iff_prefix]
        exact List.prefix_append _ _
      rw [List.nil_append, Text.splitAtFirst?, if_pos hprefix, ← htext, List.drop_left]
  | cons c body ih =>
    have hlater : ¬ stem ++ [mark] <:+: body := fun hinfix => hbody (List.infix_cons hinfix)
    have hprefix : ¬ (stem ++ [mark]).isPrefixOf (c :: (body ++ (stem ++ [mark] ++ rest))) = true := by
      rw [List.isPrefixOf_iff_prefix, ← List.cons_append]
      intro hhere
      obtain hshort | ⟨extra, hne, hextra, hoverlap⟩ := Text.prefix_append_cases hhere
      · exact hbody hshort.isInfix
      -- An overlap would put the mark among the characters before it.
      · have hlength := congrArg List.length hextra
        simp only [List.length_append, List.length_cons, List.length_nil] at hlength
        have hinside : extra <+: stem := by
          rw [List.append_assoc] at hoverlap
          exact List.prefix_of_prefix_length_le hoverlap (List.prefix_append _ _) (by omega)
        have hlast : extra.getLast? = some mark := by
          rw [← List.getLast?_append_of_ne_nil (c :: body) hne, ← hextra, List.getLast?_concat]
        exact hstem (hinside.subset (List.mem_of_getLast? hlast))
    rw [List.cons_append, Text.splitAtFirst?, if_neg hprefix, ih hlater]
    rfl

/-- A comment ends at the first `-->`, and no tag in it is found. -/
theorem walksThrough_comment {body : Text} (h : ¬ ("-->" : Text) <:+: body) :
    WalksThrough ("<!--" ++ (body ++ "-->")) [] := by
  apply WalksThrough.of_stop
  intro text
  have hsplit : Text.splitAtFirst? "-->" (body ++ (("-->" : Text) ++ text)) = some (body, text) :=
    Text.splitAtFirst?_append_needle (show '>' ∉ ("--" : Text) by decide) h text
  have htext : ("<!--" : Text) ++ (body ++ ("-->" : Text)) ++ text =
      '<' :: '!' :: '-' :: '-' :: (body ++ (("-->" : Text) ++ text)) := by
    rw [List.append_assoc, List.append_assoc]
    rfl
  have hcomment (rest : Text) : ("!--" : Text).isPrefixOf ('!' :: '-' :: '-' :: rest) = true := rfl
  rw [htext, Stop.of, if_neg (by decide), if_pos (hcomment _), List.drop_succ_cons, List.drop_succ_cons,
    List.drop_zero, hsplit]
  simp only [List.length_append, Stop.advance.injEq]
  rw [show ("<!--" : Text).length = 4 from rfl, show ("-->" : Text).length = 3 from rfl]
  omega

/-- An end tag or a declaration ends at its first `>`. -/
theorem walksThrough_skipped {mark : Char} {body : Text} (hmark : mark = '/' ∨ mark = '!' ∨ mark = '?')
    (hbody : '>' ∉ body) (hcomment : mark = '!' → ¬ ("--" : Text) <+: body) :
    WalksThrough ('<' :: mark :: (body ++ ['>'])) [] := by
  apply WalksThrough.of_stop
  intro text
  have hsearch := Text.isLongestRun_search hbody text
  have hopens : ¬ ("!--" : Text).isPrefixOf (mark :: (body ++ '>' :: text)) = true := by
    rw [List.isPrefixOf_iff_prefix]
    intro hprefix
    obtain ⟨hfirst, hdashes⟩ := List.cons_prefix_cons.mp
      (show '!' :: ("--" : Text) <+: mark :: (body ++ '>' :: text) from hprefix)
    refine hcomment hfirst.symm ?_
    obtain hshort | ⟨extra, hne, hextra, hoverlap⟩ := Text.prefix_append_cases hdashes
    · exact hshort
    · obtain ⟨c, extra, rfl⟩ := List.exists_cons_of_ne_nil hne
      obtain rfl := (List.cons_prefix_cons.mp hoverlap).1
      have hclose : '>' ∈ ("--" : Text) := by
        rw [hextra]
        simp
      exact absurd hclose (by decide)
  have hmarked : (mark == '/' || mark == '!' || mark == '?') = true := by
    simpa [or_assoc] using hmark
  have htext : '<' :: mark :: (body ++ ['>']) ++ text = '<' :: mark :: (body ++ '>' :: text) := by
    simp
  rw [htext, Stop.of, if_neg (by decide), if_neg hopens, if_pos hmarked, hsearch.dropWhile_eq,
    hsearch.takeWhile_eq]
  simp only [List.length_cons, List.length_append, List.length_nil, Stop.advance.injEq]
  omega

/-- Only a `!` after the `<` can open a comment. -/
theorem not_opens_comment {c : Char} (hc : c ≠ '!') (rest : Text) :
    ¬ ("!--" : Text).isPrefixOf (c :: rest) = true := by
  rw [List.isPrefixOf_iff_prefix]
  intro hprefix
  obtain ⟨hfirst, _⟩ := List.cons_prefix_cons.mp (show '!' :: ("--" : Text) <+: c :: rest from hprefix)
  exact hc hfirst.symm

/-- A `<` before a character that opens nothing is text. -/
theorem walksThrough_stray {c : Char} (hopen : c ≠ '<') (hletter : c.isAlpha = false)
    (hmark : ¬ (c = '/' ∨ c = '!' ∨ c = '?')) : WalksThrough ['<', c] [] := by
  intro text
  have hcomment := not_opens_comment (fun hfirst => hmark (.inr (.inl hfirst))) text
  have hmarked : ¬ (c == '/' || c == '!' || c == '?') = true := by simpa [or_assoc] using hmark
  have hstop : Stop.of ('<' :: c :: text) = .advance 1 := by
    rw [Stop.of, if_neg (by decide), if_neg hcomment, if_neg hmarked, if_neg (by simp [hletter])]
  have hafter := walksThrough_of_ne_open hopen text
  rw [List.singleton_append] at hafter
  rw [List.cons_append, List.singleton_append, plainTags, tagsBy_eq_stop, hstop]
  simp only [List.drop_succ_cons, List.drop_zero, Nat.zero_add]
  rw [plainTags_shift, hafter, List.nil_append, List.nil_append, List.map_map]
  congr 1
  funext tag
  exact Tag.shift_shift _ _ tag

/-- A tag is tried where a letter follows the `<`. -/
theorem Stop.of_letter {c : Char} (hletter : c.isAlpha = true) (rest : Text) :
    Stop.of ('<' :: c :: rest) = .tryTag := by
  have hne (mark : Char) (hmark : mark.isAlpha = false) : c ≠ mark := by
    rintro rfl
    rw [hletter] at hmark
    cases hmark
  have hcomment := not_opens_comment (hne '!' (by decide)) rest
  have hmarked : ¬ (c == '/' || c == '!' || c == '?') = true := by
    simp [hne '/' (by decide), hne '!' (by decide), hne '?' (by decide)]
  rw [Stop.of, if_neg (by decide), if_neg hcomment, if_neg hmarked, if_pos hletter]

/-- A start tag is found wherever it stands, and the walk goes on behind it. -/
theorem WrittenTag.Spells.walksThrough {tag : WrittenTag} {c : Char} {rest : Text}
    (h : tag.Spells ('<' :: c :: rest)) (hletter : c.isAlpha = true) :
    WalksThrough ('<' :: c :: rest) [tag.locate 0] := by
  intro text
  have hread : WrittenTag.read? (c :: rest ++ text) = some (tag, text) :=
    WrittenTag.read?_eq_some_iff.mpr ⟨_, rfl, h⟩
  have hstop : Stop.of ('<' :: c :: rest ++ text) = .tryTag := Stop.of_letter hletter (rest ++ text)
  rw [plainTags, tagsBy_eq_stop, hstop]
  simp only [plainReader, List.cons_append, List.tail_cons] at hread ⊢
  rw [hread]
  simp only [Option.map_some, ← h.eq_text, Nat.zero_add, ← List.cons_append, List.drop_left]
  rw [plainTags_shift, List.singleton_append]

theorem WrittenTag.Spells.scanTags_eq {tag : WrittenTag} {c : Char} {rest : Text}
    (h : tag.Spells ('<' :: c :: rest)) (hletter : c.isAlpha = true) :
    scanTags ('<' :: c :: rest) none = [tag.locate 0] := by
  rw [scanTags, quickTags_eq_plainTags, (h.walksThrough hletter).plainTags_eq]

/-- The only tag of a text that it spans is the text itself, read as a start tag. -/
theorem spells_of_single_tag {piece : Text} {tag : Tag} (htags : plainTags piece = [tag])
    (hstart : tag.start = 0) (hstop : tag.stop = piece.length) :
    ∃ (written : WrittenTag) (c : Char) (rest : Text), piece = '<' :: c :: rest ∧ c.isAlpha = true ∧
      written.Spells piece ∧ tag = written.locate 0 := by
  -- Whatever is found after the first character starts later.
  have hfirst (count : Nat) (hpos : 0 < count) :
      tagsBy plainReader () count (piece.drop count) ≠ [tag] := by
    intro hfound
    have hlater := (tagsBy_plainReader_laidOut piece count).later tag (by rw [hfound]; simp)
    omega
  rw [plainTags, tagsBy_eq_stop] at htags
  cases hwalk : Stop.of piece with
  | finish => simp [hwalk] at htags
  | advance count =>
    obtain ⟨hpos, _⟩ := Stop.advance_bounds hwalk
    simp only [hwalk, Nat.zero_add] at htags
    exact absurd htags (hfirst count hpos)
  | tryTag =>
    obtain ⟨c, rest, rfl, hletter⟩ := Stop.tryTag_text hwalk
    simp only [hwalk, plainReader, List.tail_cons] at htags
    cases hread : WrittenTag.read? (c :: rest) with
    | none =>
      simp only [hread, Option.map_none, Nat.zero_add] at htags
      exact absurd htags (hfirst 1 Nat.one_pos)
    | some found =>
      obtain ⟨written, after⟩ := found
      simp only [hread, Option.map_some, List.cons.injEq] at htags
      obtain ⟨rfl, _⟩ := htags
      obtain ⟨covered, hcovered, hspells⟩ := WrittenTag.read?_eq_some_iff.mp hread
      have hnone : after = [] := by
        have hlength := congrArg List.length hcovered
        rw [List.length_append, hspells.eq_text] at hlength
        simp only [WrittenTag.locate] at hstop
        exact List.length_eq_zero_iff.mp (by omega)
      rw [hnone, List.append_nil] at hcovered
      rw [← hcovered] at hspells
      exact ⟨written, c, rest, rfl, hletter, hspells, rfl⟩

/-- The kinds of pieces at whose end the walk always arrives. -/
inductive PieceKind where
  /-- Text without `<`. -/
  | plain
  /-- A comment with its end. -/
  | comment
  /-- An end tag or a declaration with its `>`. -/
  | skipped
  /-- A `<` that opens nothing. -/
  | stray
  /-- One start tag. -/
  | startTag
deriving DecidableEq, Repr

/-- The text is a complete piece of the kind. -/
inductive PieceKind.Spells : PieceKind → Text → Prop where
  | plain {piece : Text} (hopen : '<' ∉ piece) : Spells .plain piece
  | comment {body : Text} (hbody : ¬ ("-->" : Text) <:+: body) :
      Spells .comment ("<!--" ++ (body ++ "-->"))
  | skipped {mark : Char} {body : Text} (hmark : mark = '/' ∨ mark = '!' ∨ mark = '?')
      (hbody : '>' ∉ body) (hcomment : mark = '!' → ¬ ("--" : Text) <+: body) :
      Spells .skipped ('<' :: mark :: (body ++ ['>']))
  | stray {c : Char} (hopen : c ≠ '<') (hletter : c.isAlpha = false)
      (hmark : ¬ (c = '/' ∨ c = '!' ∨ c = '?')) : Spells .stray ['<', c]
  | startTag {piece : Text} {tag : Tag} (htags : scanTags piece none = [tag]) (hstart : tag.start = 0)
      (hstop : tag.stop = piece.length) : Spells .startTag piece

/-- The walk goes through every complete piece, and finds a tag only where the piece is one. -/
theorem PieceKind.Spells.walksThrough {kind : PieceKind} {piece : Text} (h : kind.Spells piece) :
    ∃ tags, WalksThrough piece tags ∧ (kind ≠ .startTag → tags = []) := by
  cases h with
  | plain hopen => exact ⟨[], walksThrough_of_no_open hopen, fun _ => rfl⟩
  | comment hbody => exact ⟨[], walksThrough_comment hbody, fun _ => rfl⟩
  | skipped hmark hbody hcomment => exact ⟨[], walksThrough_skipped hmark hbody hcomment, fun _ => rfl⟩
  | stray hopen hletter hmark => exact ⟨[], walksThrough_stray hopen hletter hmark, fun _ => rfl⟩
  | @startTag _ tag htags hstart hstop =>
    have hplain : plainTags piece = [tag] := by
      rw [← quickTags_eq_plainTags]
      exact htags
    obtain ⟨written, c, rest, rfl, hletter, hspells, _⟩ := spells_of_single_tag hplain hstart hstop
    exact ⟨_, hspells.walksThrough hletter, fun hkind => absurd rfl hkind⟩

/-- Asking for names keeps or drops a tag for its name alone, wherever it stands. -/
theorem scanTags_eq_filter (names : Option (List Text)) :
    ∃ wanted : Text → Bool, ∀ text, scanTags text names = (plainTags text).filter (wanted ·.name) := by
  cases names with
  | none =>
    refine ⟨fun _ => true, fun text => ?_⟩
    rw [scanTags, quickTags_eq_plainTags]
    exact (List.filter_eq_self.mpr fun _ _ => rfl).symm
  | some names =>
    refine ⟨(names.map Text.lower).contains, fun text => ?_⟩
    rw [scanTags, quickTags_eq_plainTags]

/-- The tags behind a piece that is walked through are those of the rest, moved by its length. -/
theorem WalksThrough.scanTags_append {piece : Text} {tags : List Tag} (h : WalksThrough piece tags)
    (text : Text) (names : Option (List Text)) :
    scanTags (piece ++ text) names =
      scanTags piece names ++ (scanTags text names).map (Tag.shift piece.length) := by
  obtain ⟨wanted, hwanted⟩ := scanTags_eq_filter names
  rw [hwanted, hwanted, hwanted, h, List.filter_append, h.plainTags_eq, List.filter_map]
  rfl

/-- The tags of pieces that follow one another, each scanned on its own and put in its place. -/
def tagsOfPieces (names : Option (List Text)) : List Text → List Tag
  | [] => []
  | piece :: rest => scanTags piece names ++ (tagsOfPieces names rest).map (Tag.shift piece.length)

/-- Pieces that are walked through make a text that is. -/
theorem walksThrough_flatten {pieces : List Text}
    (h : ∀ piece ∈ pieces, ∃ tags, WalksThrough piece tags) :
    ∃ tags, WalksThrough pieces.flatten tags := by
  induction pieces with
  | nil => exact ⟨[], .nil⟩
  | cons piece rest ih =>
    obtain ⟨⟨tags, hpiece⟩, hrest⟩ := List.forall_mem_cons.mp h
    obtain ⟨later, hlater⟩ := ih hrest
    exact ⟨_, hpiece.append hlater⟩

/-- The tags of a text made of pieces that are walked through are those of its pieces, each moved to where the
    piece stands. -/
theorem scanTags_flatten {pieces : List Text} (h : ∀ piece ∈ pieces, ∃ tags, WalksThrough piece tags)
    (names : Option (List Text)) : scanTags pieces.flatten names = tagsOfPieces names pieces := by
  induction pieces with
  | nil =>
    obtain ⟨wanted, hwanted⟩ := scanTags_eq_filter names
    rw [List.flatten_nil, hwanted, plainTags_nil]
    rfl
  | cons piece rest ih =>
    obtain ⟨⟨tags, hpiece⟩, hrest⟩ := List.forall_mem_cons.mp h
    rw [List.flatten_cons, hpiece.scanTags_append, ih hrest, tagsOfPieces]

/-- Complete pieces are scanned apart. The tags of a piece and a text are those of the piece, of which
    there are none unless it is a start tag, and then those of the text further on by its length; so the
    tags behind any number of pieces are found as if the text stood alone. -/
theorem scanTags_append_of_complete (names : Option (List Text)) (text : Text) :
    (∀ kind piece, PieceKind.Spells kind piece →
      scanTags (piece ++ text) names =
          scanTags piece names ++ (scanTags text names).map (Tag.shift piece.length) ∧
        (kind ≠ .startTag → scanTags piece names = [])) ∧
    ∀ pieces : List Text, (∀ piece ∈ pieces, ∃ kind, PieceKind.Spells kind piece) →
      scanTags (pieces.flatten ++ text) names =
        tagsOfPieces names pieces ++ (scanTags text names).map (Tag.shift pieces.flatten.length) := by
  constructor
  · intro kind piece hpiece
    obtain ⟨tags, hwalks, hnone⟩ := hpiece.walksThrough
    refine ⟨hwalks.scanTags_append text names, fun hkind => ?_⟩
    obtain ⟨wanted, hwanted⟩ := scanTags_eq_filter names
    rw [hwanted, hwalks.plainTags_eq, hnone hkind, List.filter_nil]
  · intro pieces hpieces
    have hwalks : ∀ piece ∈ pieces, ∃ tags, WalksThrough piece tags := by
      intro piece hmem
      obtain ⟨kind, hkind⟩ := hpieces piece hmem
      obtain ⟨tags, hpiece, _⟩ := hkind.walksThrough
      exact ⟨tags, hpiece⟩
    obtain ⟨tags, hall⟩ := walksThrough_flatten hwalks
    rw [hall.scanTags_append, scanTags_flatten hwalks]

/-- One piece of each kind before a last tag: the tag in the comment is not found, and the others are
    found where they stand. -/
theorem scanTags_append_of_complete_mixed :
    (scanTags "x<!--<b>--></p>< <a b='>'><i>" none).map (fun tag => (tag.name, tag.start, tag.stop)) =
      [("a".toList, 17, 26), ("i".toList, 26, 29)] := by
  have htag : scanTags "<a b='>'>" none = [(WrittenTag.mk "a" [.blank ' ',
      .attribute "b" (some ⟨"", "", .quoted '\'' ">"⟩)]).locate 0] :=
    WrittenTag.Spells.scanTags_eq (by decide) (by decide)
  have hlast : scanTags "<i>" none = [(WrittenTag.mk "i" []).locate 0] :=
    WrittenTag.Spells.scanTags_eq (by decide) (by decide)
  have hplain : PieceKind.Spells .plain "x" := .plain (by decide)
  have hcomment : PieceKind.Spells .comment "<!--<b>-->" :=
    .comment (show ¬ ("-->" : Text) <:+: "<b>" by decide)
  have hskipped : PieceKind.Spells .skipped "</p>" :=
    .skipped (.inl rfl) (show '>' ∉ ("p" : Text) by decide) (by decide)
  have hstray : PieceKind.Spells .stray "< " := .stray (by decide) (by decide) (by decide)
  have hstart : PieceKind.Spells .startTag "<a b='>'>" := .startTag htag rfl rfl
  obtain ⟨hone, hmany⟩ := scanTags_append_of_complete none "<i>"
  have hpieces := hmany ["x", "<!--<b>-->", "</p>", "< ", "<a b='>'>"] (by
    simp only [List.forall_mem_cons]
    exact ⟨⟨_, hplain⟩, ⟨_, hcomment⟩, ⟨_, hskipped⟩, ⟨_, hstray⟩, ⟨_, hstart⟩, by simp⟩)
  have hnone : scanTags "x" none = [] ∧ scanTags "<!--<b>-->" none = [] ∧ scanTags "</p>" none = [] ∧
      scanTags "< " none = [] :=
    ⟨(hone _ _ hplain).2 (by decide), (hone _ _ hcomment).2 (by decide), (hone _ _ hskipped).2 (by decide),
      (hone _ _ hstray).2 (by decide)⟩
  have htext : ("x<!--<b>--></p>< <a b='>'><i>" : Text) =
      List.flatten ["x".toList, "<!--<b>-->", "</p>", "< ", "<a b='>'>"] ++ "<i>".toList := by
    decide +kernel
  simp only [tagsOfPieces, hnone, htag, hlast] at hpieces
  rw [htext, hpieces]
  decide

end TemplateAudit
