import TemplateAudit.Proofs.Markup.Search.Bounds

namespace TemplateAudit

namespace SearchPlace

/-- The offset before which no `<` is looked at any more. -/
def origin : SearchPlace → Nat
  | .walking position => position
  | .naming start _ => start
  | .reading machine _ => machine.tagStart

/-- The `<` at hand: the next one for the walk, and for an inner loop the one whose tag is tried. -/
def opening? (text : Text) : SearchPlace → Option Nat
  | .walking position => text.indexFrom? ['<'] position
  | .naming start _ => some start
  | .reading machine _ => some machine.tagStart

/-- The place belongs to the `<` at `start`, or to the walk behind it. -/
def Follows (start : Nat) : SearchPlace → Prop
  | .walking position => start < position
  | .naming same _ => same = start
  | .reading machine _ => machine.tagStart = start

/-- The tags that the plain scanner finds if it tries a tag at `start`. -/
def tagsTried (text : Text) (start : Nat) : List Tag :=
  match TagMachine.tagAt? text start with
  | none => TagMachine.tagsFrom text (start + 1)
  | some tag => tag :: TagMachine.tagsFrom text tag.stop

/-- The tags that the plain scanner finds from a place on. -/
def pending (text : Text) : SearchPlace → List Tag
  | .walking position => TagMachine.tagsFrom text position
  | .naming start _ => tagsTried text start
  | .reading machine _ => tagsTried text machine.tagStart

/-- The loop over the characters of a tag name has not passed the end of the name, and a `>` is left there. -/
structure NamesTag (text : Text) (start position : Nat) : Prop where
  ahead : start < position
  within : position ≤ tagNameEnd text start
  closes : mayClose text (tagNameEnd text start) = true

/-- The machine is inside the tag that is tried and goes on to what is read there from scratch. If that is no
    tag, none closes from where the machine has been between attributes. -/
structure ReadsTag (text : Text) (machine : TagMachine) (visited : List Nat) : Prop where
  ahead : machine.tagStart < machine.position
  inside : machine.tagStart < text.length
  outcome : machine.run text = TagMachine.tagAt? text machine.tagStart
  buried : machine.run text = none → ∀ i ∈ visited, TagItem.readAll? (text.drop i) = none

/-- What holds of the loop that the search is in. -/
def Sound (text : Text) : SearchPlace → Prop
  | .walking _ => True
  | .naming start position => NamesTag text start position
  | .reading machine visited => ReadsTag text machine visited

/-- The loop, the inner ones being lighter than the one around them, and what it has left. -/
def inner (text : Text) : SearchPlace → Nat ×ₗ Nat
  | .walking _ => toLex (2, 0)
  | .naming _ position => toLex (1, text.length - position)
  | .reading machine _ => toLex (0, machine.remaining text)

/-- What is left of the text behind the `<` at hand, and then the weight within the loop. -/
def weight (text : Text) (place : SearchPlace) : Nat ×ₗ Nat ×ₗ Nat :=
  toLex (text.length + 1 - place.origin, place.inner text)

theorem weight_lt_of_origin {text : Text} {place next : SearchPlace} (hlt : place.origin < next.origin)
    (hinside : place.origin ≤ text.length) : next.weight text < place.weight text :=
  Prod.Lex.toLex_lt_toLex.mpr (.inl (by omega))

/-- A search that stays at a `<` loses weight if its loop does. -/
theorem weight_lt_of_inner {text : Text} {place next : SearchPlace} (hle : place.origin ≤ next.origin)
    (hlighter : next.inner text < place.inner text) : next.weight text < place.weight text := by
  apply Prod.Lex.toLex_lt_toLex.mpr
  obtain hlt | heq : text.length + 1 - next.origin < text.length + 1 - place.origin ∨
      text.length + 1 - next.origin = text.length + 1 - place.origin := by omega
  · exact .inl hlt
  · exact .inr ⟨heq, hlighter⟩

end SearchPlace

namespace TagSearch

variable {text : Text} {names : Option (List Text)} {search next : TagSearch}

/-- No tag is lost, and what is remembered is true of the text. -/
structure Sound (text : Text) (names : Option (List Text)) (search : TagSearch) : Prop where
  tags : search.found ++ (search.place.pending text).filter (isWanted names) = scanTags text names
  dead : ∀ i ∈ search.dead, TagItem.readAll? (text.drop i) = none
  nameStop : ∀ i, search.place.origin ≤ i → i < search.nameStop → search.nameStop = tagNameEnd text i
  place : search.place.Sound text

/-- A pass leads from one state to another: nothing is lost, some weight is, and the `<` at hand stays the same
    until the walk goes on behind it. -/
structure Advances (text : Text) (names : Option (List Text)) (search next : TagSearch) : Prop where
  sound : next.Sound text names
  lighter : next.place.weight text < search.place.weight text
  follows : ∃ start, search.place.opening? text = some start ∧ next.place.Follows start

theorem scanTags_eq_filter (text : Text) (names : Option (List Text)) :
    scanTags text names = (TagMachine.tagsFrom text 0).filter (isWanted names) := by
  have hall : quickTags text = TagMachine.tagsFrom text 0 := by
    rw [quickTags_eq_plainTags, TagMachine.tagsFrom_eq_tagsBy, List.drop_zero, plainTags]
  cases names with
  | none =>
    rw [scanTags, hall]
    exact (List.filter_eq_self.mpr fun _ _ => rfl).symm
  | some names =>
    rw [scanTags, hall]
    rfl

theorem sound_start (text : Text) (names : Option (List Text)) : start.Sound text names where
  tags := (scanTags_eq_filter text names).symm
  dead := fun _ h => absurd h List.not_mem_nil
  nameStop := fun _ _ h => absurd h (Nat.not_lt_zero _)
  place := trivial

theorem Sound.place_of (hsound : search.Sound text names) {place : SearchPlace}
    (hplace : search.place = place) : place.Sound text :=
  hplace ▸ hsound.place

/-- The `<` at hand stands in the text, and not before the origin. -/
theorem Sound.opening (hsound : search.Sound text names) {start : Nat}
    (hopening : search.place.opening? text = some start) :
    search.place.origin ≤ start ∧ start < text.length := by
  cases hplace : search.place with
  | walking position =>
    rw [hplace] at hopening
    obtain ⟨rest, hdrop⟩ := Text.drop_of_indexFrom? hopening
    have hget := (Text.drop_eq_cons hdrop).1
    exact ⟨(Text.indexFrom?_bounds hopening).1, (List.getElem?_eq_some_iff.mp hget).1⟩
  | naming same position =>
    rw [hplace] at hopening
    obtain rfl : same = start := Option.some.inj hopening
    have hnames : SearchPlace.NamesTag text same position := hsound.place_of hplace
    exact ⟨le_rfl, (lt_tagNameEnd text same).trans (lt_length_of_mayClose hnames.closes)⟩
  | reading machine visited =>
    rw [hplace] at hopening
    obtain rfl : machine.tagStart = start := Option.some.inj hopening
    have hreads : SearchPlace.ReadsTag text machine visited := hsound.place_of hplace
    exact ⟨le_rfl, hreads.inside⟩

/-- The walk goes on behind the `<` at hand. -/
theorem Sound.walksOn (hsound : search.Sound text names) {start later : Nat}
    (hopening : search.place.opening? text = some start) (hlater : start < later)
    (hplace : next.place = .walking later) (hstop : next.nameStop = search.nameStop)
    (hdead : ∀ i ∈ next.dead, TagItem.readAll? (text.drop i) = none)
    (htags : next.found ++ (TagMachine.tagsFrom text later).filter (isWanted names) =
      search.found ++ (search.place.pending text).filter (isWanted names)) :
    search.Advances text names next := by
  obtain ⟨hle, hinside⟩ := hsound.opening hopening
  have horigin : search.place.origin < next.place.origin := by
    rw [hplace]
    exact hle.trans_lt hlater
  refine ⟨⟨?_, hdead, fun i hi hlt => ?_, ?_⟩, ?_, start, hopening, ?_⟩
  · rw [hplace, ← hsound.tags]
    exact htags
  · rw [hstop] at hlt ⊢
    exact hsound.nameStop i (horigin.le.trans hi) hlt
  · rw [hplace]
    trivial
  · exact SearchPlace.weight_lt_of_origin horigin (hle.trans hinside.le)
  · rw [hplace]
    exact hlater

/-- The tag name ends at the right place, and the machine starts to read there. -/
theorem Sound.endsName (hsound : search.Sound text names) {start stop : Nat}
    (hopening : search.place.opening? text = some start) (hstop : stop = tagNameEnd text start)
    (hclose : mayClose text (tagNameEnd text start) = true)
    (hpending : search.place.pending text = SearchPlace.tagsTried text start)
    (hinner : ∀ left, toLex (0, left) < search.place.inner text) :
    search.Advances text names (search.endName text start stop) := by
  subst hstop
  obtain ⟨hle, hinside⟩ := hsound.opening hopening
  have hplace : (search.endName text start (tagNameEnd text start)).place =
      .reading (TagMachine.opened text start (tagNameEnd text start)) [] := if_pos hclose
  refine ⟨⟨?_, hsound.dead, fun i hi hlt => ?_, ?_⟩, ?_, start, hopening, ?_⟩
  · rw [hplace, ← hsound.tags, hpending]
    rfl
  · rw [hplace] at hi
    exact (tagNameEnd_shared hi hlt).symm
  · rw [hplace]
    exact ⟨lt_tagNameEnd text start, hinside, TagMachine.run_opened text start,
      fun _ i hi => absurd hi List.not_mem_nil⟩
  · rw [hplace]
    exact SearchPlace.weight_lt_of_inner hle (hinner _)
  · rw [hplace]
    rfl

/-- A tag is tried at the `<` at hand. -/
theorem Sound.tries (hsound : search.Sound text names) {position start : Nat} {rest : Text}
    (hplace : search.place = .walking position) (hopening : text.indexFrom? ['<'] position = some start)
    (hopen : text.drop start = '<' :: rest) (hclose : mayClose text start = true)
    (htried : TagMachine.tagsFrom text position = SearchPlace.tagsTried text start) :
    search.Advances text names (search.tryTag text start) := by
  have hhand : search.place.opening? text = some start := by
    rw [hplace]
    exact hopening
  have hpending : search.place.pending text = SearchPlace.tagsTried text start := by
    rw [hplace]
    exact htried
  have hnameClose := mayClose_tagNameEnd hopen hclose
  have horigin := (hsound.opening hhand).1
  rw [tryTag]
  split_ifs with hknown
  · refine hsound.endsName hhand (hsound.nameStop start horigin hknown) hnameClose hpending fun left => ?_
    rw [hplace]
    exact Prod.Lex.toLex_lt_toLex.mpr (.inl Nat.zero_lt_two)
  · have hnameStop (i : Nat) (hi : start ≤ i) := hsound.nameStop i (horigin.trans hi)
    refine ⟨⟨?_, hsound.dead, hnameStop, ?_⟩, ?_, start, hhand, rfl⟩
    · rw [← hsound.tags, hpending]
      rfl
    · exact ⟨Nat.lt_succ_self start, lt_tagNameEnd text start, hnameClose⟩
    · refine SearchPlace.weight_lt_of_inner horigin ?_
      rw [hplace]
      exact Prod.Lex.toLex_lt_toLex.mpr (.inl Nat.one_lt_two)

/-- A pass of the walk ends the search with all tags, or the walk goes on behind the `<` at hand, or it tries a
    tag there. -/
theorem Sound.walk_meets (hsound : search.Sound text names) {position : Nat}
    (hplace : search.place = .walking position) :
    (walk text search position).Meets (search.Advances text names) (· = scanTags text names) := by
  have htags := hsound.tags
  rw [hplace] at htags
  have hends (h : TagMachine.tagsFrom text position = []) : search.found = scanTags text names := by
    rw [← htags, SearchPlace.pending, h, List.filter_nil, List.append_nil]
  rw [walk]
  cases hopening : text.indexFrom? ['<'] position with
  | none => exact hends (by rw [TagMachine.tagsFrom_eq_open, hopening])
  | some start =>
    have hfrom : TagMachine.tagsFrom text position = TagMachine.tagsAtOpen text start := by
      rw [TagMachine.tagsFrom_eq_open, hopening]
    obtain ⟨rest, hopen⟩ := Text.drop_of_indexFrom? hopening
    have hwalk {later : Nat} (hlater : start < later)
        (h : TagMachine.tagsFrom text position = TagMachine.tagsFrom text later) :
        search.Advances text names (search.walkOn later) := by
      refine hsound.walksOn (by rw [hplace]; exact hopening) hlater rfl rfl hsound.dead ?_
      rw [hplace, SearchPlace.pending, h]
      rfl
    rw [TagMachine.tagsAtOpen] at hfrom
    by_cases hclose : mayClose text start = true
    · simp only [if_pos hclose]
      by_cases hcomment : ("<!--" : Text).isPrefixOf (text.drop start) = true
      · rw [if_pos hcomment] at hfrom ⊢
        cases hend : text.indexFrom? "-->" (start + 4) with
        | none =>
          rw [hend] at hfrom
          exact hends hfrom
        | some close =>
          rw [hend] at hfrom
          have hle := (Text.indexFrom?_bounds hend).1
          exact hwalk (by omega) hfrom
      rw [if_neg hcomment] at hfrom ⊢
      cases hnext : text[start + 1]? with
      | none =>
        rw [hnext] at hfrom
        exact hwalk (Nat.lt_succ_self start) hfrom
      | some next =>
        rw [hnext] at hfrom
        simp only at hfrom ⊢
        by_cases hkind : next = '/' ∨ next = '!' ∨ next = '?'
        · obtain ⟨close, hfound⟩ := exists_close_of_declaration hopen hclose hnext hkind
          have hle := (Text.indexFrom?_bounds hfound).1
          have hlater : start < close + 1 := by omega
          rw [if_pos hkind, hfound] at hfrom ⊢
          exact hwalk hlater hfrom
        rw [if_neg hkind] at hfrom ⊢
        by_cases hletter : next.isAlpha = true
        · rw [if_pos hletter] at hfrom ⊢
          exact hsound.tries hplace hopening hopen hclose hfrom
        · rw [if_neg hletter] at hfrom ⊢
          exact hwalk (Nat.lt_succ_self start) hfrom
    · simp only [if_neg hclose]
      exact hends (TagMachine.tagsFrom_of_no_close hopening hclose)

/-- A pass over a tag name leaves a character behind or finds the end of the name, never the end of the text. -/
theorem Sound.name_meets (hsound : search.Sound text names) {start position : Nat}
    (hplace : search.place = .naming start position) (past : TagSearch) :
    (look text position past (search.name text start position)).Meets (search.Advances text names)
      (· = scanTags text names) := by
  have hhand : search.place.opening? text = some start := by
    rw [hplace]
    rfl
  obtain ⟨hstart, hle, hnameClose⟩ : SearchPlace.NamesTag text start position := hsound.place_of hplace
  -- The loop never comes past the last `>`, since that ends every tag name.
  have hclose := mayClose_of_le hle hnameClose
  have hinside := lt_length_of_mayClose hclose
  have hc := List.getElem?_eq_getElem hinside
  have hends := endsTagName_iff hstart hle hc
  rw [look, if_pos hclose, hc]
  show search.Advances text names (search.name text start position text[position])
  rw [name]
  split_ifs with hcase
  · refine hsound.endsName hhand (hends.mp hcase).symm hnameClose (by rw [hplace]; rfl) fun left => ?_
    rw [hplace]
    exact Prod.Lex.toLex_lt_toLex.mpr (.inl Nat.zero_lt_one)
  · have hne : tagNameEnd text start ≠ position := fun h => hcase (hends.mpr h)
    have hnameStop (i : Nat) (hi : start ≤ i) := hsound.nameStop i (by rwa [hplace])
    refine ⟨⟨?_, hsound.dead, hnameStop, ?_⟩, ?_, start, hhand, rfl⟩
    · rw [← hsound.tags, hplace]
      rfl
    · exact ⟨hstart.trans (Nat.lt_succ_self position), by omega, hnameClose⟩
    · rw [hplace]
      refine SearchPlace.weight_lt_of_inner le_rfl ?_
      exact Prod.Lex.toLex_lt_toLex.mpr (.inr ⟨rfl, by omega⟩)

/-- The reading fails as it would from scratch, and from nowhere it has been between attributes a tag closes. -/
theorem Sound.givesUp (hsound : search.Sound text names) {machine : TagMachine} {visited seen : List Nat}
    (hplace : search.place = .reading machine visited) (hrun : machine.run text = none)
    (hseen : ∀ i ∈ seen, TagItem.readAll? (text.drop i) = none) :
    search.Advances text names (search.giveUp machine seen) := by
  have hreads : SearchPlace.ReadsTag text machine visited := hsound.place_of hplace
  refine hsound.walksOn (by rw [hplace]; rfl) (Nat.lt_succ_self _) rfl rfl (fun i hi => ?_) ?_
  · exact (List.mem_append.mp hi).elim (hseen i) (hsound.dead i)
  · rw [hplace, SearchPlace.pending, SearchPlace.tagsTried, ← hreads.outcome, hrun]
    rfl

/-- A tag is found that would be found from scratch. -/
theorem Sound.takes (hsound : search.Sound text names) {machine : TagMachine} {visited : List Nat} {tag : Tag}
    (hplace : search.place = .reading machine visited) (hrun : machine.run text = some tag)
    (hstop : machine.tagStart < tag.stop) : search.Advances text names (search.take names tag) := by
  have hreads : SearchPlace.ReadsTag text machine visited := hsound.place_of hplace
  refine hsound.walksOn (by rw [hplace]; rfl) hstop rfl rfl hsound.dead ?_
  rw [hplace, SearchPlace.pending, SearchPlace.tagsTried, ← hreads.outcome, hrun, take]
  simp only [List.filter_cons]
  split_ifs
  · rw [List.append_assoc, List.singleton_append]
  · rfl

/-- The machine moves on, to the same end. -/
theorem Sound.readsOn (hsound : search.Sound text names) {machine moved : TagMachine} {visited seen : List Nat}
    (hplace : search.place = .reading machine visited) (hstep : machine.step text = .moved moved)
    (hseen : machine.run text = none → ∀ i ∈ seen, TagItem.readAll? (text.drop i) = none) :
    search.Advances text names { search with place := .reading moved seen } := by
  have hreads : SearchPlace.ReadsTag text machine visited := hsound.place_of hplace
  have hsame := TagMachine.tagStart_of_step hstep
  have hle : machine.position ≤ moved.position := by
    obtain ⟨_, hlt | ⟨heq, _⟩⟩ := TagMachine.step_advances hstep
    · exact hlt.le
    · exact heq.ge
  have hhand : search.place.opening? text = some machine.tagStart := by
    rw [hplace]
    rfl
  refine ⟨⟨?_, hsound.dead, fun i hi => hsound.nameStop i ?_, ?_⟩, ?_, machine.tagStart, hhand, hsame⟩
  · rw [← hsound.tags, hplace]
    show search.found ++ (SearchPlace.tagsTried text moved.tagStart).filter (isWanted names) = _
    rw [hsame]
    rfl
  · rw [hplace]
    exact hsame.symm.le.trans hi
  · refine ⟨?_, ?_, ?_, ?_⟩
    · rw [hsame]
      exact hreads.ahead.trans_le hle
    · rw [hsame]
      exact hreads.inside
    · rw [hsame, ← hreads.outcome, TagMachine.run_of_moved hstep]
    · rwa [← TagMachine.run_of_moved hstep]
  · rw [hplace]
    refine SearchPlace.weight_lt_of_inner hsame.ge ?_
    exact Prod.Lex.toLex_lt_toLex.mpr (.inr ⟨rfl, TagMachine.remaining_lt_of_step hstep⟩)

/-- A pass of the reading leaves the machine on its way, or ends the reading as it would end from scratch. -/
theorem Sound.read_meets (hsound : search.Sound text names) {machine : TagMachine} {visited : List Nat}
    (hplace : search.place = .reading machine visited) :
    (look text machine.position (search.giveUp machine visited)
      fun _ => search.read text names machine visited).Meets (search.Advances text names)
        (· = scanTags text names) := by
  have hreads : SearchPlace.ReadsTag text machine visited := hsound.place_of hplace
  -- Between attributes the outcome depends on the offset alone, so it can be remembered by the offset.
  have hbetween (hstate : machine.state = .beforeAttributeName) :
      machine.run text = none ↔ TagItem.readAll? (text.drop machine.position) = none := by
    rw [TagMachine.run_beforeAttributeName hstate, Option.map_eq_none_iff]
  rw [look]
  split_ifs with hclose
  · have hc := List.getElem?_eq_getElem (lt_length_of_mayClose hclose)
    rw [hc]
    show search.Advances text names (search.read text names machine visited)
    rw [read]
    split_ifs with hdead
    · have hnone := (hbetween hdead.1).mpr (hsound.dead _ hdead.2)
      exact hsound.givesUp hplace hnone (hreads.buried hnone)
    · have hburied (hnone : machine.run text = none) :
          ∀ i ∈ visits machine visited, TagItem.readAll? (text.drop i) = none := by
        intro i hi
        rw [visits] at hi
        split_ifs at hi with hstate
        · obtain rfl | hi := List.mem_cons.mp hi
          · exact (hbetween hstate).mp hnone
          · exact hreads.buried hnone i hi
        · exact hreads.buried hnone i hi
      cases hstep : machine.step text with
      | closed =>
        exact hsound.takes hplace (TagMachine.run_of_closed hstep) (hreads.ahead.trans (Nat.lt_succ_self _))
      | stuck =>
        have hnone := TagMachine.run_of_stuck hstep
        exact hsound.givesUp hplace hnone (hburied hnone)
      | moved next => exact hsound.readsOn hplace hstep hburied
  · have hnone := TagMachine.run_of_no_close hclose
    exact hsound.givesUp hplace hnone (hreads.buried hnone)

/-- The whole invariant, pass by pass. -/
theorem Sound.pass_meets (hsound : search.Sound text names) :
    (pass text names search).Meets (search.Advances text names) (· = scanTags text names) := by
  rw [pass]
  cases hplace : search.place with
  | walking position => exact hsound.walk_meets hplace
  | naming start position => exact hsound.name_meets hplace _
  | reading machine visited => exact hsound.read_meets hplace

end TagSearch

end TemplateAudit
