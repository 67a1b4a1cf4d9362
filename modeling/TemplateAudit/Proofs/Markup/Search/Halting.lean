import TemplateAudit.Proofs.Markup.Search.Soundness

namespace TemplateAudit

/-- Where an inner loop is. -/
def SearchPlace.offset? : SearchPlace → Option Nat
  | .walking _ => none
  | .naming _ position => some position
  | .reading machine _ => some machine.position

/-- Until the walk goes on, the `<` at hand stays the same. -/
theorem SearchPlace.Follows.opening {text : Text} {start : Nat} {place : SearchPlace}
    (h : place.Follows start) (hplace : ∀ position, place ≠ .walking position) :
    place.opening? text = some start := by
  cases place with
  | walking position => exact absurd rfl (hplace position)
  | naming same position => exact congrArg some h
  | reading machine visited => exact congrArg some h

namespace TagSearch

variable {text : Text} {names : Option (List Text)} {search next : TagSearch}

/-- One pass of the walk, and with it all passes of the inner loops up to the next one of the walk. -/
def Round (text : Text) (names : Option (List Text)) (search next : TagSearch) : Prop :=
  ∃ first, pass text names search = .goesOn first ∧
    Relation.ReflTransGen (fun state after =>
      (∀ position, state.place ≠ .walking position) ∧ pass text names state = .goesOn after) first next

/-- Within so many passes the reading is over or further on than `position`. -/
inductive LeavesWithin (text : Text) (names : Option (List Text)) (position : Nat) : Nat → TagSearch → Prop
  | past {count : Nat} {search : TagSearch}
    (hpast : ∀ machine visited, search.place = .reading machine visited → position < machine.position) :
    LeavesWithin text names position count search
  | later {count : Nat} {search next : TagSearch} (hpass : pass text names search = .goesOn next)
    (hnext : LeavesWithin text names position count next) : LeavesWithin text names position (count + 1) search

/-- What holds of a search wherever it stands. No character is asked for that is not there (`inside`), and an
    inner loop looks at none behind the last `>` (`guarded`). An end tag or a declaration has its `>`
    (`declaration`). A round of the walk ends behind the `<` at which it began (`round`), and so does every try
    of a tag (`returns`). The loop over a tag name leaves the character behind (`name`). So does the machine,
    unless it comes to a state in which the character can be looked at less often (`read`), and then it leaves
    it behind, or ends, within as many passes (`leaves`). -/
structure MakesHeadway (text : Text) (names : Option (List Text)) (search : TagSearch) : Prop where
  inside : pass text names search ≠ .looksOutside
  guarded : ∀ {offset}, search.place.offset? = some offset → mayClose text offset = true →
    ∃ last c, text.lastIndex? '>' = some last ∧ offset ≤ last ∧ last < text.length ∧
      text[offset]? = some c
  declaration : ∀ {position start next}, search.place = .walking position →
    text.indexFrom? ['<'] position = some start → mayClose text start = true →
    text[start + 1]? = some next → next = '/' ∨ next = '!' ∨ next = '?' →
    ∃ close, text.indexFrom? ['>'] (start + 2) = some close
  round : ∀ {position position' next}, search.place = .walking position → Round text names search next →
    next.place = .walking position' →
    ∃ start, text.indexFrom? ['<'] position = some start ∧ start < position'
  returns : ∀ {start}, (∀ position, search.place ≠ .walking position) →
    search.place.opening? text = some start →
    ∃ next position, LeadsTo (pass text names) search next ∧ next.place = .walking position ∧
      start < position
  name : ∀ {start start' position position' next}, search.place = .naming start position →
    pass text names search = .goesOn next → next.place = .naming start' position' → position < position'
  read : ∀ {machine machine' visited visited' next}, search.place = .reading machine visited →
    pass text names search = .goesOn next → next.place = .reading machine' visited' →
    machine.position < machine'.position ∨
      machine'.position = machine.position ∧
        TagMachine.repeats machine'.state < TagMachine.repeats machine.state
  leaves : ∀ {machine visited}, search.place = .reading machine visited →
    LeavesWithin text names machine.position (TagMachine.repeats machine.state + 1) search

theorem Sound.of_pass (hsound : search.Sound text names) (hpass : pass text names search = .goesOn next) :
    search.Advances text names next := by
  have h := hsound.pass_meets
  rwa [hpass] at h

theorem sound_of_leadsTo (h : LeadsTo (pass text names) start search) : search.Sound text names :=
  h.of_keeps (fun hsound hpass => (Sound.of_pass hsound hpass).sound) (sound_start text names)

theorem Sound.endsWith (hsound : search.Sound text names) :
    EndsWith (pass text names) search (scanTags text names) :=
  EndsWith.of_lighter (fun search => search.place.weight text)
    (fun hstate => (Sound.pass_meets hstate).imp fun _ h => ⟨h.sound, h.lighter⟩) hsound

theorem Advances.follows_of_opening (hadvances : search.Advances text names next) {start : Nat}
    (hopening : search.place.opening? text = some start) : next.place.Follows start := by
  obtain ⟨same, hsame, hfollows⟩ := hadvances.follows
  obtain rfl : start = same := by
    rw [hopening] at hsame
    exact Option.some.inj hsame
  exact hfollows

/-- Each round of the walk ends behind the `<` at which it began. -/
theorem Sound.follows_of_round (hsound : search.Sound text names) (hround : Round text names search next) :
    ∃ start, search.place.opening? text = some start ∧ next.place.Follows start := by
  obtain ⟨first, hfirst, hlater⟩ := hround
  have hadvances := hsound.of_pass hfirst
  obtain ⟨start, hopening, hfollows⟩ := hadvances.follows
  refine ⟨start, hopening, ?_⟩
  have hboth : next.Sound text names ∧ next.place.Follows start := by
    induction hlater with
    | refl => exact ⟨hadvances.sound, hfollows⟩
    | tail _ hstep ih =>
      obtain ⟨hplace, hpass⟩ := hstep
      have hadvances := ih.1.of_pass hpass
      exact ⟨hadvances.sound, hadvances.follows_of_opening (ih.2.opening hplace)⟩
  exact hboth.2

theorem look_ne_ends (text : Text) (position : Nat) (past : TagSearch) (seen : Char → TagSearch)
    (result : List Tag) : look text position past seen ≠ .ends result := by
  rw [look]
  split_ifs
  · cases text[position]? <;> exact fun h => by cases h
  · exact fun h => by cases h

/-- An inner loop goes on behind the last `>`, or with the character that it looks at. -/
theorem next_of_look {position : Nat} {past : TagSearch} {seen : Char → TagSearch}
    (h : look text position past seen = .goesOn next) : next = past ∨ ∃ c, next = seen c := by
  rw [look] at h
  split_ifs at h
  · cases hc : text[position]? with
    | none =>
      rw [hc] at h
      cases h
    | some c =>
      rw [hc] at h
      cases h
      exact .inr ⟨c, rfl⟩
  · cases h
    exact .inl rfl

/-- A loop over a tag name that goes on has left a character behind. -/
theorem lt_of_pass_naming {start start' position position' : Nat}
    (hplace : search.place = .naming start position) (hpass : pass text names search = .goesOn next)
    (hnext : next.place = .naming start' position') : position < position' := by
  have hended {stop : Nat} : (search.endName text start stop).place ≠ .naming start' position' := by
    rw [endName]
    split_ifs <;> exact fun h => by cases h
  simp only [pass, hplace] at hpass
  obtain rfl | ⟨c, rfl⟩ := next_of_look hpass
  · exact absurd hnext hended
  · rw [name] at hnext
    split_ifs at hnext
    · exact absurd hnext hended
    · cases hnext
      exact Nat.lt_succ_self position

/-- A reading that goes on has let the machine take a step. -/
theorem step_of_pass_reading {machine machine' : TagMachine} {visited visited' : List Nat}
    (hplace : search.place = .reading machine visited) (hpass : pass text names search = .goesOn next)
    (hnext : next.place = .reading machine' visited') : machine.step text = .moved machine' := by
  simp only [pass, hplace] at hpass
  obtain rfl | ⟨c, rfl⟩ := next_of_look hpass
  · cases hnext
  · rw [read] at hnext
    split_ifs at hnext
    · cases hnext
    · cases hstep : machine.step text with
      | closed =>
        rw [hstep] at hnext
        cases hnext
      | stuck =>
        rw [hstep] at hnext
        cases hnext
      | moved moved =>
        rw [hstep] at hnext
        cases hnext
        rfl

/-- The inner loops never end the search. -/
theorem pass_ne_ends (hplace : ∀ position, search.place ≠ .walking position) (result : List Tag) :
    pass text names search ≠ .ends result := by
  rw [pass]
  cases hcase : search.place with
  | walking position => exact absurd hcase (hplace position)
  | naming start position => exact look_ne_ends text position _ _ result
  | reading machine visited => exact look_ne_ends text machine.position _ _ result

/-- An inner loop never ends the search. -/
theorem Sound.exists_pass (hsound : search.Sound text names)
    (hplace : ∀ position, search.place ≠ .walking position) :
    ∃ next, pass text names search = .goesOn next := by
  cases hpass : pass text names search with
  | goesOn next => exact ⟨next, rfl⟩
  | ends result => exact absurd hpass (pass_ne_ends hplace result)
  | looksOutside => exact absurd hpass hsound.pass_meets.ne_looksOutside

/-- Every try of a tag ends, and the walk goes on behind the `<` at which the tag was tried. -/
theorem Sound.returns {result : List Tag} {start : Nat} (hsound : search.Sound text names)
    (hends : EndsWith (pass text names) search result)
    (hplace : ∀ position, search.place ≠ .walking position)
    (hopening : search.place.opening? text = some start) :
    ∃ next position, LeadsTo (pass text names) search next ∧ next.place = .walking position ∧
      start < position := by
  induction hends with
  | now hpass => exact absurd hpass (pass_ne_ends hplace _)
  | @later search first result hpass _ ih =>
    have hadvances := hsound.of_pass hpass
    have hfollows := hadvances.follows_of_opening hopening
    by_cases hwalks : ∃ position, first.place = .walking position
    · obtain ⟨position, hfirst⟩ := hwalks
      rw [hfirst] at hfollows
      exact ⟨first, position, .single hpass, hfirst, hfollows⟩
    · have hinner (position : Nat) : first.place ≠ .walking position := fun h => hwalks ⟨position, h⟩
      obtain ⟨next, position, hleads, hnext, hlt⟩ :=
        ih hadvances.sound hinner (hfollows.opening hinner)
      exact ⟨next, position, .head hpass hleads, hnext, hlt⟩

/-- The reading leaves a character behind before it has looked at it once more than its state allows. -/
theorem Sound.leavesWithin {count : Nat} (hsound : search.Sound text names) {machine : TagMachine}
    {visited : List Nat} (hplace : search.place = .reading machine visited)
    (hcount : TagMachine.repeats machine.state < count) :
    LeavesWithin text names machine.position count search := by
  induction count generalizing search machine visited with
  | zero => exact absurd hcount (Nat.not_lt_zero _)
  | succ count ih =>
    obtain ⟨next, hpass⟩ := hsound.exists_pass fun position h => by
      rw [hplace] at h
      cases h
    refine .later hpass ?_
    by_cases hreading : ∃ machine' visited', next.place = .reading machine' visited'
    · obtain ⟨machine', visited', hnext⟩ := hreading
      obtain ⟨_, hahead | ⟨hsame, hless⟩⟩ :=
        TagMachine.step_advances (step_of_pass_reading hplace hpass hnext)
      · refine .past fun later _ hlater => ?_
        rw [hnext] at hlater
        cases hlater
        exact hahead
      · rw [← hsame]
        exact ih (hsound.of_pass hpass).sound hnext (by omega)
    · exact .past fun later seen hlater => absurd ⟨later, seen, hlater⟩ hreading

/-- A sound search makes headway. -/
theorem Sound.makesHeadway (hsound : search.Sound text names) : search.MakesHeadway text names where
  inside := hsound.pass_meets.ne_looksOutside
  guarded := by
    intro offset _ hclose
    obtain ⟨last, hlast, hle⟩ := (Option.any_eq_true _ _).mp hclose
    have hc := List.getElem?_eq_getElem (lt_length_of_mayClose hclose)
    exact ⟨last, _, hlast, of_decide_eq_true hle, Text.lastIndex?_lt hlast, hc⟩
  declaration := by
    intro position start next _ hopening hclose hnext hkind
    obtain ⟨rest, hopen⟩ := Text.drop_of_indexFrom? hopening
    exact exists_close_of_declaration hopen hclose hnext hkind
  round := by
    intro position position' next hplace hround hnext
    obtain ⟨start, hopening, hfollows⟩ := hsound.follows_of_round hround
    rw [hplace] at hopening
    rw [hnext] at hfollows
    exact ⟨start, hopening, hfollows⟩
  returns := hsound.returns hsound.endsWith
  name := lt_of_pass_naming
  read := fun hplace hpass hnext =>
    (TagMachine.step_advances (step_of_pass_reading hplace hpass hnext)).2
  leaves := fun hplace => hsound.leavesWithin hplace (Nat.lt_succ_self _)

/-- The search gives all tags after finitely many passes, and makes headway inside the text with every pass on
    its way. -/
theorem halts_inside_text (text : Text) (names : Option (List Text)) :
    EndsWith (pass text names) start (scanTags text names) ∧
      ∀ search, LeadsTo (pass text names) start search → search.MakesHeadway text names :=
  ⟨(sound_start text names).endsWith, fun _ hleads => (sound_of_leadsTo hleads).makesHeadway⟩

/-- At the `>` behind a name the machine can stand still twice: it finds the end of the name, and that no value
    follows. Its next look closes the tag. -/
theorem halts_inside_text_three_looks :
    let named : TagMachine := ⟨"a", 0, .attributeName, 4, 3, 0, 0, ' ', false, []⟩
    let ended : TagMachine := { named with state := .afterAttributeName, nameEnd := 4 }
    let noted : TagMachine := ended.note "<a b>" none 4
    let search : TagSearch := ⟨.reading named [3, 2], [], [], 2⟩
    LeadsTo (pass "<a b>" none) start search ∧
      pass "<a b>" none search = .goesOn { search with place := .reading ended [3, 2] } ∧
      pass "<a b>" none { search with place := .reading ended [3, 2] } =
        .goesOn { search with place := .reading noted [3, 2] } ∧
      LeavesWithin "<a b>" none 4 3 search := by
  intro named ended noted search
  have hleads : LeadsTo (pass "<a b>" none) start search :=
    .head rfl (.head rfl (.head rfl (.head rfl (.head rfl .refl))))
  refine ⟨hleads, rfl, rfl, ?_⟩
  exact ((halts_inside_text "<a b>" none).2 search hleads).leaves rfl

end TagSearch

end TemplateAudit
