import Mathlib.Data.List.Basic
import TemplateAudit.Component.Declaration
import TemplateAudit.Proofs.Text.Run

namespace TemplateAudit.Component

/-- What may stand between the quotes of a literal: characters other than the quote and the backslash, and
    any character after a backslash. -/
inductive LiteralBody (quote : Char) : Text → Prop where
  | nil : LiteralBody quote []
  | escaped (c : Char) {rest : Text} (h : LiteralBody quote rest) : LiteralBody quote ('\\' :: c :: rest)
  | plain {c : Char} {rest : Text} (hquote : c ≠ quote) (hescape : c ≠ '\\') (h : LiteralBody quote rest) :
      LiteralBody quote (c :: rest)

/-- After its opening quote a literal fits the pattern of literals. -/
def FitsLiteral (quote : Char) (tail : Text) : Prop :=
  ∃ body, LiteralBody quote body ∧ tail = body ++ [quote]

/-- Whether the character after a text is escaped: a backslash that is not escaped itself escapes the
    character after it. `escaped` tells whether the first character of the text is. -/
def leavesEscape (escaped : Bool) : Text → Bool
  | [] => escaped
  | c :: rest => leavesEscape (c == '\\' && !escaped) rest

/-- After its opening quote a literal closes at the first quote that is not escaped. -/
def ClosesFirst (quote : Char) (tail : Text) : Prop :=
  ∃ body, tail = body ++ [quote] ∧ leavesEscape false body = false ∧
    ∀ before after, body = before ++ quote :: after → leavesEscape false before = true

/-- After its opening quote an address closes at the first quote, in the same line. -/
def FitsAddress (quote : Char) (tail : Text) : Prop :=
  ∃ body, quote ∉ body ∧ '\n' ∉ body ∧ tail = body ++ [quote]

/-- The declaration by `word` is written in the source where it says: at a word boundary, with blanks at most
    around the colon, and with a quoted part that closes. -/
structure Written (word : Text) (closed : Char → Text → Prop) (source : Text) (declaration : Declaration) :
    Prop where
  boundary : ∀ c ∈ (source.take declaration.start).getLast?, isWordChar c = false
  parts : ∃ (before after : Text) (quote : Char) (tail rest : Text),
    source.drop declaration.start = word ++ (before ++ ':' :: (after ++ quote :: (tail ++ rest))) ∧
      (∀ c ∈ before, isBlank c = true) ∧ (∀ c ∈ after, isBlank c = true) ∧ isLiteralQuote quote = true ∧
      closed quote tail ∧ declaration.literal = quote :: tail ∧
      declaration.literalStart =
        declaration.start + (word.length + before.length + 1 + after.length)

/-- Quoted parts are read as they close. -/
def ReadsClosed (closed : Char → Text → Prop) (tail? : Char → Text → Option Text) : Prop :=
  ∀ quote text tail, isLiteralQuote quote = true →
    (tail? quote text = some tail ↔ tail <+: text ∧ closed quote tail)

/-- The declarations by `word` that a lexer takes from `offset` on: the leftmost, then those after it. -/
inductive LexedFrom (word : Text) (closed : Char → Text → Prop) (source : Text) :
    Nat → List Declaration → Prop where
  | done {offset : Nat}
      (hnone : ∀ declaration, Written word closed source declaration → declaration.start < offset) :
      LexedFrom word closed source offset []
  | take {offset : Nat} {declaration : Declaration} {later : List Declaration}
      (hwritten : Written word closed source declaration) (hle : offset ≤ declaration.start)
      (hleftmost : ∀ other, Written word closed source other →
        other.start < offset ∨ declaration.start ≤ other.start)
      (hlater : LexedFrom word closed source declaration.stop later) :
      LexedFrom word closed source offset (declaration :: later)

theorem leavesEscape_escaped (c : Char) (rest : Text) :
    leavesEscape false ('\\' :: c :: rest) = leavesEscape false rest := by
  simp [leavesEscape]

theorem leavesEscape_plain {c : Char} (h : c ≠ '\\') (rest : Text) :
    leavesEscape false (c :: rest) = leavesEscape false rest := by
  rw [leavesEscape, beq_false_of_ne h, Bool.false_and]

/-- The rest of a literal is read exactly if the text starts with one that fits. -/
theorem literalTail?_eq_some_iff {quote : Char} (hquote : quote ≠ '\\') {text tail : Text} :
    literalTail? quote text = some tail ↔ tail <+: text ∧ FitsLiteral quote tail := by
  constructor
  · intro h
    fun_induction literalTail? quote text generalizing tail with
    | case1 => cases h
    | case2 c rest ih =>
      obtain ⟨tail, htail, rfl⟩ := Option.map_eq_some_iff.mp h
      obtain ⟨⟨after, rfl⟩, body, hbody, rfl⟩ := ih htail
      exact ⟨⟨after, rfl⟩, '\\' :: c :: body, .escaped c hbody, rfl⟩
    | case3 rest _ =>
      obtain rfl := Option.some.inj h
      exact ⟨⟨rest, rfl⟩, [], .nil, rfl⟩
    | case4 => cases h
    | case5 c rest _ hne hescape ih =>
      obtain ⟨tail, htail, rfl⟩ := Option.map_eq_some_iff.mp h
      obtain ⟨⟨after, rfl⟩, body, hbody, rfl⟩ := ih htail
      exact ⟨⟨after, rfl⟩, c :: body, .plain hne hescape hbody, rfl⟩
  · rintro ⟨⟨rest, rfl⟩, body, hbody, rfl⟩
    induction hbody with
    | nil =>
      have hpair : ∀ c after, quote = '\\' → rest = c :: after → False := fun _ _ h _ => hquote h
      rw [List.nil_append, List.singleton_append, literalTail?, if_pos rfl]
      exact hpair
    | escaped c _ ih =>
      rw [List.cons_append, List.cons_append, List.cons_append, List.cons_append, literalTail?, ih]
      rfl
    | @plain c body hne hescape _ ih =>
      rw [List.cons_append, List.cons_append, literalTail?, if_neg hne, if_neg hescape, ih]
      · rfl
      · exact fun _ _ h _ => hescape h

/-- The rest of an address is read exactly if the text starts with one that fits. -/
theorem addressTail?_eq_some_iff {quote : Char} {text tail : Text} :
    addressTail? quote text = some tail ↔ tail <+: text ∧ FitsAddress quote tail := by
  constructor
  · intro h
    induction text generalizing tail with
    | nil => cases h
    | cons c rest ih =>
      rw [addressTail?] at h
      split at h
      · next hquote =>
        obtain rfl := Option.some.inj h
        exact ⟨⟨rest, rfl⟩, [], List.not_mem_nil, List.not_mem_nil, by rw [hquote]; rfl⟩
      · next hquote =>
        split at h
        · cases h
        · next hfeed =>
          obtain ⟨tail, htail, rfl⟩ := Option.map_eq_some_iff.mp h
          obtain ⟨hbegins, body, hbody, hline, rfl⟩ := ih htail
          refine ⟨(List.prefix_cons_inj c).mpr hbegins, c :: body, ?_, ?_, rfl⟩
          · exact List.not_mem_cons_of_ne_of_not_mem (Ne.symm hquote) hbody
          · exact List.not_mem_cons_of_ne_of_not_mem (Ne.symm hfeed) hline
  · rintro ⟨⟨rest, rfl⟩, body, hbody, hline, rfl⟩
    induction body with
    | nil => rw [List.nil_append, List.singleton_append, addressTail?, if_pos rfl]
    | cons c body ih =>
      obtain ⟨hquote, hbody⟩ := List.ne_and_not_mem_of_not_mem_cons hbody
      obtain ⟨hfeed, hline⟩ := List.ne_and_not_mem_of_not_mem_cons hline
      rw [List.cons_append, List.cons_append, addressTail?, if_neg (Ne.symm hquote),
        if_neg (Ne.symm hfeed), ih hbody hline]
      rfl

/-- A literal fits its pattern exactly if it closes at the first quote that is not escaped: there is nothing
    in the pattern by which it could close earlier or later. -/
theorem closesFirst_iff {quote : Char} (hquote : quote ≠ '\\') {tail : Text} :
    ClosesFirst quote tail ↔ FitsLiteral quote tail := by
  constructor
  · rintro ⟨body, rfl, hclosing, hfirst⟩
    refine ⟨body, ?_, rfl⟩
    induction body using literalTail?.induct quote with
    | case1 => exact .nil
    | case2 c rest ih =>
      rw [leavesEscape_escaped] at hclosing
      refine .escaped c (ih hclosing fun before after h => ?_)
      rw [← leavesEscape_escaped c before]
      exact hfirst ('\\' :: c :: before) after (by rw [h]; rfl)
    | case3 rest _ => exact absurd (hfirst [] rest rfl) (by decide)
    | case4 rest hlast _ =>
      -- A backslash with nothing behind it would escape the closing quote.
      cases rest with
      | nil => exact absurd hclosing (by decide)
      | cons c rest => exact absurd rfl (hlast c rest rfl)
    | case5 c rest _ hne hescape ih =>
      rw [leavesEscape_plain hescape] at hclosing
      refine .plain hne hescape (ih hclosing fun before after h => ?_)
      rw [← leavesEscape_plain hescape before]
      exact hfirst (c :: before) after (by rw [h]; rfl)
  · rintro ⟨body, hbody, rfl⟩
    refine ⟨body, rfl, ?_, fun before after h => ?_⟩
    · induction hbody with
      | nil => rfl
      | escaped c _ ih => rw [leavesEscape_escaped, ih]
      | plain _ hescape _ ih => rw [leavesEscape_plain hescape, ih]
    · induction hbody generalizing before with
      | nil => cases before <;> cases h
      | escaped c _ ih =>
        match before with
        | [] => exact absurd (List.cons.inj h).1.symm hquote
        | [_] =>
          obtain ⟨rfl, _⟩ := List.cons.inj h
          rfl
        | _ :: _ :: before =>
          obtain ⟨rfl, hinner⟩ := List.cons.inj h
          obtain ⟨rfl, hrest⟩ := List.cons.inj hinner
          rw [leavesEscape_escaped, ih before hrest]
      | plain hne hescape _ ih =>
        cases before with
        | nil => exact absurd (List.cons.inj h).1 hne
        | cons _ before =>
          obtain ⟨rfl, hrest⟩ := List.cons.inj h
          rw [leavesEscape_plain hescape, ih before hrest]

section Lexing

variable {word : Text} {closed : Char → Text → Prop} {tail? : Char → Text → Option Text}

theorem getLast?_take_succ {source : Text} {place : Nat} {c : Char} (h : source[place]? = some c) :
    (source.take (place + 1)).getLast? = some c := by
  rw [List.take_add_one, h, Option.toList_some, List.getLast?_concat]

theorem isBlank_of_isLiteralQuote {quote : Char} (h : isLiteralQuote quote = true) : isBlank quote = false := by
  simp only [isLiteralQuote, Bool.or_eq_true, beq_iff_eq] at h
  obtain (rfl | rfl) | rfl := h
  · decide
  · decide
  · decide

theorem ne_backslash_of_isLiteralQuote {quote : Char} (h : isLiteralQuote quote = true) : quote ≠ '\\' := by
  rintro rfl
  exact absurd h (by decide)

/-- What is read as a declaration is what is written as one. -/
theorem declared?_eq_some_iff (hreads : ReadsClosed closed tail?) {text literal : Text} {lead : Nat} :
    declared? word tail? text = some (lead, literal) ↔
      ∃ (before after : Text) (quote : Char) (tail rest : Text),
        text = word ++ (before ++ ':' :: (after ++ quote :: (tail ++ rest))) ∧
        (∀ c ∈ before, isBlank c = true) ∧ (∀ c ∈ after, isBlank c = true) ∧ isLiteralQuote quote = true ∧
        closed quote tail ∧ literal = quote :: tail ∧
        lead = word.length + before.length + 1 + after.length := by
  constructor
  · intro h
    unfold declared? at h
    split at h
    · cases h
    next afterWord hword =>
    split at h
    case h_2 => cases h
    next afterColon hcolon =>
    split at h
    case h_2 => cases h
    next quote rest hrest =>
    split at h
    case isFalse => cases h
    next hquote =>
    obtain ⟨tail, htail, heq⟩ := Option.map_eq_some_iff.mp h
    obtain ⟨rfl, rfl⟩ := Prod.mk.inj heq
    obtain ⟨⟨rest, rfl⟩, hcloses⟩ := (hreads quote _ tail hquote).mp htail
    have hbefore := List.takeWhile_append_dropWhile (p := isBlank) (l := afterWord)
    have hafter := List.takeWhile_append_dropWhile (p := isBlank) (l := afterColon)
    rw [hcolon] at hbefore
    rw [hrest] at hafter
    refine ⟨_, _, quote, tail, rest, ?_, fun c hc => List.mem_takeWhile_imp hc,
      fun c hc => List.mem_takeWhile_imp hc, hquote, hcloses, rfl, rfl⟩
    rw [hafter, hbefore, List.append_eq_of_isPrefixOf?_eq_some hword]
  · rintro ⟨before, after, quote, tail, rest, rfl, hbefore, hafter, hquote, hcloses, rfl, rfl⟩
    have hread : tail? quote (tail ++ rest) = some tail :=
      (hreads quote _ tail hquote).mpr ⟨List.prefix_append _ _, hcloses⟩
    have hword : word.isPrefixOf? (word ++ (before ++ ':' :: (after ++ quote :: (tail ++ rest)))) =
        some (before ++ ':' :: (after ++ quote :: (tail ++ rest))) :=
      List.isPrefixOf?_eq_some_iff_append_eq.mpr rfl
    have hcolon : Text.IsLongestRun isBlank before (':' :: (after ++ quote :: (tail ++ rest))) :=
      ⟨hbefore, by simp; decide⟩
    have hopening : Text.IsLongestRun isBlank after (quote :: (tail ++ rest)) :=
      ⟨hafter, by simpa using isBlank_of_isLiteralQuote hquote⟩
    simp only [declared?, hword, hcolon.dropWhile_eq, hcolon.takeWhile_eq, hopening.dropWhile_eq,
      hopening.takeWhile_eq, hquote, if_true, hread, Option.map_some]

theorem Written.start_lt {source : Text} {declaration : Declaration}
    (h : Written word closed source declaration) : declaration.start < source.length := by
  obtain ⟨before, after, quote, tail, rest, htext, _⟩ := h.parts
  have hlength := congrArg List.length htext
  simp only [List.length_drop, List.length_append, List.length_cons] at hlength
  omega

/-- A written declaration is read where it starts. -/
theorem Written.declared?_eq (hreads : ReadsClosed closed tail?) {source : Text} {declaration : Declaration}
    (h : Written word closed source declaration) :
    declared? word tail? (source.drop declaration.start) =
      some (declaration.literalStart - declaration.start, declaration.literal) := by
  obtain ⟨before, after, quote, tail, rest, htext, hbefore, hafter, hquote, hcloses, hliteral, hstart⟩ :=
    h.parts
  exact (declared?_eq_some_iff hreads).mpr
    ⟨before, after, quote, tail, rest, htext, hbefore, hafter, hquote, hcloses, hliteral, by omega⟩

/-- A declaration that is read at a word boundary is written there. -/
theorem written_of_declared? (hreads : ReadsClosed closed tail?) {source literal : Text} {offset lead : Nat}
    (hboundary : ∀ c ∈ (source.take offset).getLast?, isWordChar c = false)
    (h : declared? word tail? (source.drop offset) = some (lead, literal)) :
    Written word closed source ⟨offset, offset + lead, literal⟩ := by
  obtain ⟨before, after, quote, tail, rest, htext, hbefore, hafter, hquote, hcloses, hliteral, hlead⟩ :=
    (declared?_eq_some_iff hreads).mp h
  exact ⟨hboundary, before, after, quote, tail, rest, htext, hbefore, hafter, hquote, hcloses, hliteral,
    by rw [hlead]⟩

theorem Written.start_le_literalStart {source : Text} {declaration : Declaration}
    (h : Written word closed source declaration) : declaration.start ≤ declaration.literalStart := by
  obtain ⟨before, after, quote, tail, rest, _, _, _, _, _, _, hstart⟩ := h.parts
  omega

theorem Written.literal_pos {source : Text} {declaration : Declaration}
    (h : Written word closed source declaration) : 0 < declaration.literal.length := by
  obtain ⟨_, _, quote, tail, _, _, _, _, _, _, hliteral, _⟩ := h.parts
  rw [hliteral]
  exact Nat.succ_pos _

/-- The source goes on with the quoted part where that starts. -/
theorem Written.drop_literalStart {source : Text} {declaration : Declaration}
    (h : Written word closed source declaration) :
    ∃ rest, source.drop declaration.literalStart = declaration.literal ++ rest := by
  obtain ⟨before, after, quote, tail, rest, htext, _, _, _, _, hliteral, hstart⟩ := h.parts
  have hlead : source.drop declaration.start =
      (word ++ (before ++ ':' :: after)) ++ (quote :: tail ++ rest) := by
    rw [htext]
    simp
  have hdrop := Text.drop_append hlead
  rw [show declaration.start + (word ++ (before ++ ':' :: after)).length = declaration.literalStart by
    simp only [hstart, List.length_append, List.length_cons]; omega] at hdrop
  exact ⟨rest, by rw [hdrop, hliteral]⟩

/-- One declaration at most is written at a place. -/
theorem Written.eq_of_start_eq (hreads : ReadsClosed closed tail?) {source : Text}
    {declaration other : Declaration} (h : Written word closed source declaration)
    (hother : Written word closed source other) (hstart : declaration.start = other.start) :
    declaration = other := by
  have hread := h.declared?_eq hreads
  rw [hstart, hother.declared?_eq hreads] at hread
  obtain ⟨hlead, hliteral⟩ := Prod.mk.inj (Option.some.inj hread)
  have hle := h.start_le_literalStart
  have hle' := hother.start_le_literalStart
  cases declaration
  cases other
  simp only [Declaration.mk.injEq] at *
  exact ⟨hstart, by omega, hliteral.symm⟩

/-- Lexing finds the same declarations from an earlier place if none is written in between. -/
theorem LexedFrom.earlier {source : Text} {offset : Nat} {declarations : List Declaration}
    (h : LexedFrom word closed source (offset + 1) declarations)
    (hnone : ∀ declaration, Written word closed source declaration → declaration.start ≠ offset) :
    LexedFrom word closed source offset declarations := by
  cases h with
  | done hdone =>
    refine .done fun declaration hdeclaration => ?_
    have hlt := hdone declaration hdeclaration
    have hne := hnone declaration hdeclaration
    omega
  | take hwritten hle hleftmost hlater =>
    refine .take hwritten (by omega) (fun other hother => ?_) hlater
    have hplace := hleftmost other hother
    have hne := hnone other hother
    omega

/-- The lexer has no choice. -/
theorem LexedFrom.unique (hreads : ReadsClosed closed tail?) {source : Text} {offset : Nat}
    {declarations others : List Declaration} (h : LexedFrom word closed source offset declarations)
    (hothers : LexedFrom word closed source offset others) : declarations = others := by
  induction h generalizing others with
  | done hnone =>
    cases hothers with
    | done => rfl
    | take hwritten hle _ _ =>
      have hlt := hnone _ hwritten
      omega
  | @take offset declaration _ hwritten hle hleftmost _ ih =>
    cases hothers with
    | done hnone =>
      have hlt := hnone _ hwritten
      omega
    | @take _ other _ hwritten' hle' hleftmost' hlater' =>
      have hplace := hleftmost other hwritten'
      have hplace' := hleftmost' declaration hwritten
      obtain rfl := hwritten.eq_of_start_eq hreads hwritten' (by omega)
      rw [ih hlater']

/-- The declarations of a source are those that the lexer takes. `skip` characters of the text belong to the
    declaration before it. -/
theorem lexedFrom_declarationsFrom (hreads : ReadsClosed closed tail?) {source text : Text}
    {offset skip : Nat} {inWord : Bool} (htext : source.drop offset = text)
    (hword : inWord = false ↔ ∀ c ∈ (source.take offset).getLast?, isWordChar c = false) :
    LexedFrom word closed source (offset + skip) (declarationsFrom word tail? offset skip inWord text) := by
  induction text generalizing offset skip inWord with
  | nil =>
    have hlength := List.drop_eq_nil_iff.mp htext
    refine .done fun declaration hdeclaration => ?_
    have hlt := hdeclaration.start_lt
    omega
  | cons c rest ih =>
    obtain ⟨hplace, hrest⟩ := Text.drop_eq_cons htext
    have hword' : isWordChar c = false ↔
        ∀ c ∈ (source.take (offset + 1)).getLast?, isWordChar c = false := by
      rw [getLast?_take_succ hplace]
      simp
    have hnext : ∀ skip, LexedFrom word closed source (offset + 1 + skip)
        (declarationsFrom word tail? (offset + 1) skip (isWordChar c) rest) := fun _ => ih hrest hword'
    cases skip with
    | succ skip =>
      rw [declarationsFrom, show offset + (skip + 1) = offset + 1 + skip by omega]
      exact hnext skip
    | zero =>
      rw [declarationsFrom]
      split
      · next hnone =>
        refine (hnext 0).earlier fun declaration hdeclaration hstart => ?_
        -- A declaration here would stand at a word boundary and would have been read.
        have hread := hdeclaration.declared?_eq hreads
        have hboundary := hdeclaration.boundary
        rw [hstart] at hread hboundary
        rw [if_neg (by simp [hword.mpr hboundary]), ← htext, hread] at hnone
        cases hnone
      · next lead literal hfound =>
        split at hfound
        · cases hfound
        next hboundary =>
        rw [← htext] at hfound
        have hwritten := written_of_declared? hreads (hword.mp (by simpa using hboundary)) hfound
        have hpos : 0 < literal.length := hwritten.literal_pos
        have hlater := hnext (lead + literal.length - 1)
        rw [show offset + 1 + (lead + literal.length - 1) = offset + lead + literal.length by omega]
          at hlater
        exact .take hwritten (Nat.le_refl _) (fun other _ => Nat.lt_or_ge other.start offset) hlater

/-- The lexer takes the declarations of a source and no others. -/
theorem lexedFrom_iff (hreads : ReadsClosed closed tail?) {source : Text} {declarations : List Declaration} :
    LexedFrom word closed source 0 declarations ↔
      declarations = declarationsFrom word tail? 0 0 false source := by
  have hlexed : LexedFrom word closed source (0 + 0) (declarationsFrom word tail? 0 0 false source) :=
    lexedFrom_declarationsFrom hreads rfl (by simp)
  constructor
  · exact fun h => h.unique hreads hlexed
  · rintro rfl
    exact hlexed

/-- What the lexer takes is written in the source. -/
theorem LexedFrom.written {source : Text} {offset : Nat} {declarations : List Declaration}
    (h : LexedFrom word closed source offset declarations) :
    ∀ declaration ∈ declarations, Written word closed source declaration := by
  induction h with
  | done => exact List.forall_mem_nil _
  | take hwritten _ _ _ ih => exact List.forall_mem_cons.mpr ⟨hwritten, ih⟩

/-- No declaration is taken before the offset from which they are taken. -/
theorem LexedFrom.le_start {source : Text} {offset : Nat} {declarations : List Declaration}
    (h : LexedFrom word closed source offset declarations) :
    ∀ declaration ∈ declarations, offset ≤ declaration.start := by
  induction h with
  | done => exact List.forall_mem_nil _
  | @take offset declaration _ hwritten hle _ _ ih =>
    refine List.forall_mem_cons.mpr ⟨hle, fun other hother => ?_⟩
    have hstop := ih other hother
    have hlead := hwritten.start_le_literalStart
    simp only [Declaration.stop] at hstop
    omega

/-- The lexer takes one declaration after another. -/
theorem LexedFrom.disjoint {source : Text} {offset : Nat} {declarations : List Declaration}
    (h : LexedFrom word closed source offset declarations) :
    declarations.Pairwise fun earlier later => earlier.stop ≤ later.start := by
  induction h with
  | done => exact .nil
  | take _ _ _ hlater ih => exact List.pairwise_cons.mpr ⟨hlater.le_start, ih⟩

end Lexing

theorem readsClosed_fitsLiteral : ReadsClosed FitsLiteral literalTail? :=
  fun _ _ _ hquote => literalTail?_eq_some_iff (ne_backslash_of_isLiteralQuote hquote)

/-- Literals are read up to the first quote that is not escaped. -/
theorem readsClosed_closesFirst : ReadsClosed ClosesFirst literalTail? := by
  intro quote text tail hquote
  rw [closesFirst_iff (ne_backslash_of_isLiteralQuote hquote)]
  exact readsClosed_fitsLiteral quote text tail hquote

theorem readsClosed_fitsAddress : ReadsClosed FitsAddress addressTail? :=
  fun _ _ _ _ => addressTail?_eq_some_iff

theorem lexedFrom_inlineTemplates (source : Text) :
    LexedFrom "template" FitsLiteral source 0 (inlineTemplates source) :=
  (lexedFrom_iff readsClosed_fitsLiteral).mpr rfl

theorem lexedFrom_templateAddresses (source : Text) :
    LexedFrom "templateUrl" FitsAddress source 0 (templateAddresses source) :=
  (lexedFrom_iff readsClosed_fitsAddress).mpr rfl

/-- A template written in a component source is a part of it. -/
theorem drop_of_mem_inlineTemplates {source : Text} {declaration : Declaration}
    (h : declaration ∈ inlineTemplates source) :
    declaration.literal ≠ [] ∧ declaration.literal <+: source.drop declaration.literalStart := by
  have hwritten := (lexedFrom_inlineTemplates source).written declaration h
  obtain ⟨rest, hrest⟩ := hwritten.drop_literalStart
  exact ⟨List.ne_nil_of_length_pos hwritten.literal_pos, rest, hrest.symm⟩

end TemplateAudit.Component
