import TemplateAudit.Console.StyleTag
import TemplateAudit.Proofs.Text.Run

namespace TemplateAudit.StyleTag

/-- What may stand between the brackets of a tag. -/
structure IsBody (body : Text) : Prop where
  starts : ∃ c ∈ body.head?, startsTag c = true
  no_open : '[' ∉ body
  no_close : ']' ∉ body

theorem not_bracket_of_startsTag {c : Char} (h : startsTag c = true) : c ≠ '[' ∧ c ≠ ']' := by
  constructor <;> rintro rfl <;> exact absurd h (by decide)

/-- The inside of a tag is read exactly up to its closing bracket. -/
theorem body?_eq_some_iff {text body after : Text} :
    body? text = some (body, after) ↔ IsBody body ∧ text = body ++ ']' :: after := by
  constructor
  · intro h
    unfold body? at h
    split at h
    · cases h
    · next c rest =>
      split at h
      · next hc =>
        split at h
        · next tail hdrop =>
          obtain ⟨rfl, rfl⟩ := Prod.mk.inj (Option.some.inj h)
          have hrun := Text.isLongestRun_takeWhile (fun c => c != '[' && c != ']') rest
          have hsplit := List.takeWhile_append_dropWhile (p := fun c => c != '[' && c != ']') (l := rest)
          rw [hdrop] at hsplit
          refine ⟨⟨⟨c, rfl, hc⟩, ?_, ?_⟩, by rw [List.cons_append, hsplit]⟩
          · rw [List.mem_cons, not_or]
            exact ⟨Ne.symm (not_bracket_of_startsTag hc).1, fun hmem => absurd (hrun.1 _ hmem) (by decide)⟩
          · rw [List.mem_cons, not_or]
            exact ⟨Ne.symm (not_bracket_of_startsTag hc).2, fun hmem => absurd (hrun.1 _ hmem) (by decide)⟩
        · cases h
      · cases h
  · rintro ⟨hbody, rfl⟩
    obtain ⟨c, hhead, hc⟩ := hbody.starts
    obtain ⟨rest, rfl⟩ := List.head?_eq_some_iff.mp hhead
    have hrun : Text.IsLongestRun (fun c => c != '[' && c != ']') rest (']' :: after) := by
      refine ⟨fun d hd => ?_, fun d hd => ?_⟩
      · have hopen : d ≠ '[' := by
          rintro rfl
          exact hbody.no_open (List.mem_cons_of_mem c hd)
        have hclose : d ≠ ']' := by
          rintro rfl
          exact hbody.no_close (List.mem_cons_of_mem c hd)
        simp [hopen, hclose]
      · obtain rfl := Option.some.inj hd
        decide
    simp only [List.cons_append, body?, hc, if_true, hrun.dropWhile_eq, hrun.takeWhile_eq]

/-- A text starts with a tag exactly if it is spelled like one: backslashes, and a body in brackets. -/
theorem lead?_eq_some_iff {text body after : Text} {slashes : Nat} :
    lead? text = some (slashes, body, after) ↔
      IsBody body ∧ text = Text.repeated slashes '\\' ++ '[' :: (body ++ ']' :: after) := by
  have hrun := Text.isLongestRun_takeWhile (· == '\\') text
  have hsplit := List.takeWhile_append_dropWhile (p := (· == '\\')) (l := text)
  constructor
  · intro h
    unfold lead? at h
    split at h
    · next rest hdrop =>
      obtain ⟨⟨body', after'⟩, hfound, heq⟩ := Option.map_eq_some_iff.mp h
      simp only [Prod.mk.injEq] at heq
      obtain ⟨rfl, rfl, rfl⟩ := heq
      obtain ⟨hbody, rfl⟩ := body?_eq_some_iff.mp hfound
      have hslashes : text.takeWhile (· == '\\') =
          Text.repeated (text.takeWhile (· == '\\')).length '\\' := by
        refine List.eq_replicate_of_mem fun c hc => ?_
        simpa using hrun.1 c hc
      rw [hdrop] at hsplit
      exact ⟨hbody, by rw [← hslashes, hsplit]⟩
    · cases h
  · rintro ⟨hbody, htext⟩
    have hlongest : Text.IsLongestRun (· == '\\') (Text.repeated slashes '\\')
        ('[' :: (body ++ ']' :: after)) := by
      refine ⟨fun c hc => ?_, fun c hc => ?_⟩
      · rw [List.eq_of_mem_replicate hc]
        rfl
      · obtain rfl := Option.some.inj hc
        decide
    have hlength : (Text.repeated slashes '\\').length = slashes := List.length_replicate
    simp only [lead?, htext, hlongest.dropWhile_eq, hlongest.takeWhile_eq,
      body?_eq_some_iff.mpr ⟨hbody, rfl⟩, Option.map_some, hlength]

theorem lead?_tag {body : Text} (hbody : IsBody body) (slashes : Nat) (after : Text) :
    lead? (Text.repeated slashes '\\' ++ '[' :: (body ++ ']' :: after)) = some (slashes, body, after) :=
  lead?_eq_some_iff.mpr ⟨hbody, rfl⟩

theorem lead?_cons_backslash {text body after : Text} {slashes : Nat}
    (h : lead? text = some (slashes, body, after)) :
    lead? ('\\' :: text) = some (slashes + 1, body, after) := by
  obtain ⟨hbody, rfl⟩ := lead?_eq_some_iff.mp h
  exact lead?_eq_some_iff.mpr ⟨hbody, rfl⟩

/-- In front of a tag the backslashes are doubled and one is added. -/
theorem protect_of_lead? {text body after : Text} {slashes : Nat}
    (h : lead? text = some (slashes, body, after)) :
    protect text = Text.repeated (2 * slashes + 1) '\\' ++ '[' :: (body ++ ']' :: protect after) := by
  rw [protect]
  split
  · next hlead =>
    rw [h] at hlead
    obtain ⟨rfl, rfl, rfl⟩ := hlead
    rfl
  · next hlead =>
    rw [h] at hlead
    cases hlead

/-- Where no tag starts, a character is left as it is. -/
theorem protect_cons_of_lead? {c : Char} {rest : Text} (h : lead? (c :: rest) = none) :
    protect (c :: rest) = c :: protect rest := by
  rw [protect]
  split
  · next hlead =>
    rw [h] at hlead
    cases hlead
  · rfl

theorem protect_nil : protect [] = [] := by
  rw [protect]
  rfl

/-- Induction over a text along the tags in it. -/
theorem lead_induction {motive : Text → Prop} (nil : motive [])
    (tag : ∀ slashes body after, IsBody body → motive after →
      motive (Text.repeated slashes '\\' ++ '[' :: (body ++ ']' :: after)))
    (char : ∀ c rest, lead? (c :: rest) = none → motive rest → motive (c :: rest)) (text : Text) :
    motive text := by
  induction hlength : text.length using Nat.strong_induction_on generalizing text with
  | _ n ih =>
    cases hlead : lead? text with
    | some found =>
      obtain ⟨slashes, body, after⟩ := found
      have hshorter := length_of_lead? hlead
      obtain ⟨hbody, rfl⟩ := lead?_eq_some_iff.mp hlead
      exact tag slashes body after hbody (ih after.length (by omega) after rfl)
    | none =>
      cases text with
      | nil => exact nil
      | cons c rest =>
        rw [List.length_cons] at hlength
        exact char c rest hlead (ih rest.length (by omega) rest rfl)

/-- A text that does not end in a character has no tail that does. -/
theorem getLast?_ne_of_suffix {text tail : Text} {c : Char} (htail : tail <:+ text)
    (h : text.getLast? ≠ some c) : tail.getLast? ≠ some c := by
  obtain ⟨before, rfl⟩ := htail
  intro hlast
  rw [List.getLast?_append, hlast] at h
  exact h rfl

theorem getLast?_append_ne {tail : Text} (hne : tail ≠ []) {c : Char} (hc : c ∉ tail) (text : Text) :
    (text ++ tail).getLast? ≠ some c := by
  obtain ⟨last, hlast⟩ := Option.ne_none_iff_exists'.mp (mt List.getLast?_eq_none_iff.mp hne)
  rw [List.getLast?_append, hlast]
  rintro ⟨⟩
  exact hc (List.mem_of_getLast? hlast)

/-- The first bracket of a text is either an opening or a closing one. -/
theorem open_ne_close {first second : Text} (hfirst : ']' ∉ first) (hsecond : '[' ∉ second)
    (rest rest' : Text) : first ++ '[' :: rest ≠ second ++ ']' :: rest' := by
  intro h
  obtain ⟨middle, rfl, hmiddle⟩ | ⟨middle, rfl, hmiddle⟩ := List.append_eq_append_iff.mp h
  · cases middle with
    | nil => exact absurd (List.cons.inj hmiddle).1 (by decide)
    | cons c middle =>
      exact hsecond (List.mem_append_right _ (List.mem_cons.mpr (.inl (List.cons.inj hmiddle).1)))
  · cases middle with
    | nil => exact absurd (List.cons.inj hmiddle).1 (by decide)
    | cons c middle =>
      exact hfirst (List.mem_append_right _ (List.mem_cons.mpr (.inl (List.cons.inj hmiddle).1)))

/-- A body that is closed in protected text is closed in the text itself. -/
theorem close_of_protect {body after : Text} (hopen : '[' ∉ body) {text : Text}
    (h : protect text = body ++ ']' :: after) : ∃ after', text = body ++ ']' :: after' := by
  induction body generalizing text with
  | nil =>
    cases hlead : lead? text with
    | some found =>
      obtain ⟨slashes, inner, rest⟩ := found
      rw [protect_of_lead? hlead, Text.repeated, List.replicate_succ] at h
      exact absurd (List.cons.inj h).1 (by decide)
    | none =>
      cases text with
      | nil =>
        rw [protect_nil] at h
        cases h
      | cons c rest =>
        rw [protect_cons_of_lead? hlead] at h
        exact ⟨rest, by rw [(List.cons.inj h).1]; rfl⟩
  | cons d body ih =>
    cases hlead : lead? text with
    | some found =>
      obtain ⟨slashes, inner, rest⟩ := found
      have hslashes : ']' ∉ Text.repeated (2 * slashes + 1) '\\' :=
        fun hmem => absurd (List.eq_of_mem_replicate hmem) (by decide)
      rw [protect_of_lead? hlead] at h
      exact absurd h (open_ne_close hslashes hopen _ _)
    | none =>
      rw [List.mem_cons, not_or] at hopen
      cases text with
      | nil =>
        rw [protect_nil] at h
        cases h
      | cons c rest =>
        rw [protect_cons_of_lead? hlead] at h
        obtain ⟨hc, hbody⟩ := List.cons.inj h
        obtain ⟨after', rfl⟩ := ih hopen.2 hbody
        exact ⟨after', by rw [hc]; rfl⟩

/-- Where a text does not start with a tag, neither does the protected text. -/
theorem lead?_protect {text : Text} (h : lead? text = none) : lead? (protect text) = none := by
  induction text with
  | nil => rwa [protect_nil]
  | cons c rest ih =>
    rw [protect_cons_of_lead? h]
    refine Option.eq_none_iff_forall_ne_some.mpr ?_
    rintro ⟨slashes, body, after⟩ hlead
    obtain ⟨hbody, heq⟩ := lead?_eq_some_iff.mp hlead
    cases slashes with
    | zero =>
      obtain ⟨rfl, hclosed⟩ := List.cons.inj heq
      obtain ⟨after', rfl⟩ := close_of_protect hbody.no_open hclosed
      have hsome : lead? ('[' :: (body ++ ']' :: after')) = some (0, body, after') := lead?_tag hbody 0 after'
      rw [h] at hsome
      cases hsome
    | succ slashes =>
      obtain ⟨rfl, hspelled⟩ := List.cons.inj heq
      have hnone : lead? rest = none := by
        refine Option.eq_none_iff_forall_ne_some.mpr ?_
        rintro ⟨slashes, body, after⟩ hsome
        rw [lead?_cons_backslash hsome] at h
        cases h
      have hrest : lead? (protect rest) = some (slashes, body, after) :=
        lead?_eq_some_iff.mpr ⟨hbody, hspelled⟩
      rw [ih hnone] at hrest
      cases hrest

/-- A text cut at everything in it that would be taken for a tag. -/
def cuts (text : Text) : List Token :=
  match _h : lead? text with
  | some (slashes, body, after) => leadTokens 0 (2 * slashes + 1) body ++ cuts after
  | none =>
    match text with
    | [] => []
    | c :: rest => consPlain c (cuts rest)
termination_by text.length
decreasing_by
  · exact length_of_lead? (by assumption)
  · simp

theorem cuts_nil : cuts [] = [] := by
  rw [cuts]
  rfl

/-- A protected tag is cut into the tokens of an odd number of backslashes. -/
theorem cuts_of_lead? {text body after : Text} {slashes : Nat}
    (h : lead? text = some (slashes, body, after)) :
    cuts text = leadTokens 0 (2 * slashes + 1) body ++ cuts after := by
  rw [cuts]
  split
  · next hlead =>
    rw [h] at hlead
    obtain ⟨rfl, rfl, rfl⟩ := hlead
    rfl
  · next hlead =>
    rw [h] at hlead
    cases hlead

/-- Where no tag starts, a character joins the piece behind it. -/
theorem cuts_cons_of_lead? {c : Char} {rest : Text} (h : lead? (c :: rest) = none) :
    cuts (c :: rest) = consPlain c (cuts rest) := by
  rw [cuts]
  split
  · next hlead =>
    rw [h] at hlead
    cases hlead
  · rfl

/-- A tag and the backslashes in front of it are cut off, and the rest is cut further on. -/
theorem tokens_of_lead? {text body after : Text} {slashes : Nat}
    (h : lead? text = some (slashes, body, after)) (position : Nat) :
    tokens position text =
      leadTokens position slashes body ++ tokens (position + slashes + body.length + 2) after := by
  rw [tokens]
  split
  · next hlead =>
    rw [h] at hlead
    obtain ⟨rfl, rfl, rfl⟩ := hlead
    rfl
  · next hlead =>
    rw [h] at hlead
    cases hlead

/-- Where no tag starts, a character joins the token behind it. -/
theorem tokens_cons_of_lead? {c : Char} {rest : Text} (h : lead? (c :: rest) = none) (position : Nat) :
    tokens position (c :: rest) = consPlain c (tokens (position + 1) rest) := by
  rw [tokens]
  split
  · next hlead =>
    rw [h] at hlead
    cases hlead
  · rfl

theorem tokens_nil (position : Nat) : tokens position [] = [] := by
  rw [tokens]
  rfl

/-- A protected tag is text wherever it stands. -/
theorem leadTokens_odd (position slashes : Nat) (body : Text) :
    leadTokens position (2 * slashes + 1) body = leadTokens 0 (2 * slashes + 1) body := by
  have hodd : (2 * slashes + 1) % 2 = 1 := by omega
  simp only [leadTokens, hodd, if_true]

/-- A character joins the first tokens alone if no plain text follows that it could reach. -/
theorem consPlain_append (c : Char) (first : List Token) {rest : List Token}
    (h : ∀ text, rest.head? ≠ some (.plain text)) :
    consPlain c (first ++ rest) = consPlain c first ++ rest := by
  cases first with
  | nil =>
    match rest with
    | [] => rfl
    | .plain text :: _ => exact absurd rfl (h text)
    | .literal _ :: _ => rfl
    | .tag _ _ :: _ => rfl
  | cons token first => cases token <;> rfl

/-- Protected text has no tags: it is read as the text cut at what would be tags. -/
theorem tokens_protect (position : Nat) (text : Text) : tokens position (protect text) = cuts text := by
  induction text using lead_induction generalizing position with
  | nil => rw [protect_nil, cuts_nil, tokens_nil]
  | tag slashes body after hbody ih =>
    have hlead := lead?_tag hbody slashes after
    have hprotected : lead? (protect (Text.repeated slashes '\\' ++ '[' :: (body ++ ']' :: after))) =
        some (2 * slashes + 1, body, protect after) :=
      lead?_eq_some_iff.mpr ⟨hbody, protect_of_lead? hlead⟩
    rw [tokens_of_lead? hprotected, cuts_of_lead? hlead, ih, leadTokens_odd]
  | char c rest hlead ih =>
    have hnone := lead?_protect hlead
    rw [protect_cons_of_lead? hlead] at hnone ⊢
    rw [tokens_cons_of_lead? hnone, cuts_cons_of_lead? hlead, ih]

/-- Text without brackets adds no tag to the text before it. -/
theorem lead?_append {text rest : Text} (h : lead? text = none) (hclose : ']' ∉ rest) :
    lead? (text ++ rest) = none := by
  refine Option.eq_none_iff_forall_ne_some.mpr ?_
  rintro ⟨slashes, body, after⟩ hlead
  obtain ⟨hbody, heq⟩ := lead?_eq_some_iff.mp hlead
  have htag : text ++ rest = (Text.repeated slashes '\\' ++ '[' :: (body ++ [']'])) ++ after := by
    rw [heq]
    simp
  obtain ⟨middle, hmiddle, rfl⟩ | ⟨middle, rfl, rfl⟩ := List.append_eq_append_iff.mp htag
  · cases hlast : middle.getLast? with
    | none =>
      obtain rfl := List.getLast?_eq_none_iff.mp hlast
      have hsome : lead? text = some (slashes, body, []) := by
        refine lead?_eq_some_iff.mpr ⟨hbody, ?_⟩
        rw [← hmiddle.trans (List.append_nil text)]
      rw [h] at hsome
      cases hsome
    | some c =>
      have hend := congrArg List.getLast? hmiddle
      rw [List.getLast?_append, List.getLast?_append, hlast] at hend
      obtain rfl : ']' = c := by simpa [List.getLast?_cons] using hend
      exact hclose (List.mem_append_left _ (List.mem_of_getLast? hlast))
  · have hsome : lead? ((Text.repeated slashes '\\' ++ '[' :: (body ++ [']'])) ++ middle) =
        some (slashes, body, middle) := by
      refine lead?_eq_some_iff.mpr ⟨hbody, ?_⟩
      simp
    rw [h] at hsome
    cases hsome

theorem protect_of_no_bracket {text : Text} (h : ']' ∉ text) : protect text = text := by
  induction text with
  | nil => exact protect_nil
  | cons c rest ih =>
    have hlead : lead? (c :: rest) = none := lead?_append (show lead? [] = none from rfl) h
    rw [protect_cons_of_lead? hlead, ih fun hmem => h (List.mem_cons_of_mem c hmem)]

/-- Text without brackets needs no protection, whatever stands before it. -/
theorem protect_append {rest : Text} (h : ']' ∉ rest) (text : Text) :
    protect (text ++ rest) = protect text ++ rest := by
  induction text using lead_induction with
  | nil => rw [List.nil_append, protect_of_no_bracket h, protect_nil, List.nil_append]
  | tag slashes body after hbody ih =>
    have hlead := lead?_tag hbody slashes after
    have hlonger : lead? (Text.repeated slashes '\\' ++ '[' :: (body ++ ']' :: after) ++ rest) =
        some (slashes, body, after ++ rest) := lead?_eq_some_iff.mpr ⟨hbody, by simp⟩
    rw [protect_of_lead? hlead, protect_of_lead? hlonger, ih]
    simp
  | char c text hlead ih =>
    have hlonger : lead? (c :: (text ++ rest)) = none := lead?_append hlead h
    rw [List.cons_append, protect_cons_of_lead? hlonger, protect_cons_of_lead? hlead, ih, List.cons_append]

/-- No tag of a text reaches into what follows if an opening bracket comes before a closing one there. -/
theorem lead?_append_before_open {text : Text} (h : lead? text = none) (hne : text ≠ [])
    (hlast : text.getLast? ≠ some '\\') {first : Text} (hfirst : ']' ∉ first) (rest : Text) :
    lead? (text ++ (first ++ '[' :: rest)) = none := by
  have hother : ¬ ∀ c ∈ text, c = '\\' := fun hall => by
    obtain ⟨c, hc⟩ := Option.ne_none_iff_exists'.mp (mt List.getLast?_eq_none_iff.mp hne)
    rw [hc, hall c (List.mem_of_getLast? hc)] at hlast
    exact hlast rfl
  have hslash : ∀ slashes, ∀ c ∈ Text.repeated slashes '\\', c = '\\' :=
    fun slashes c hc => List.eq_of_mem_replicate hc
  refine Option.eq_none_iff_forall_ne_some.mpr ?_
  rintro ⟨slashes, body, after⟩ hlead
  obtain ⟨hbody, heq⟩ := lead?_eq_some_iff.mp hlead
  obtain ⟨middle, hslashes, _⟩ | ⟨middle, rfl, hmiddle⟩ := List.append_eq_append_iff.mp heq
  · exact hother fun c hc => hslash slashes c (hslashes ▸ List.mem_append_left middle hc)
  cases middle with
  | nil => exact hother (by simpa using hslash slashes)
  | cons c middle =>
    obtain ⟨rfl, hclosed⟩ := List.cons.inj hmiddle
    obtain ⟨inner, rfl, hinner⟩ | ⟨inner, rfl, hinner⟩ := List.append_eq_append_iff.mp hclosed
    · -- The tag is closed before the bracket, so it is a tag of the text.
      cases inner with
      | nil => exact open_ne_close hfirst List.not_mem_nil rest after hinner.symm
      | cons c inner =>
        obtain ⟨rfl, _⟩ := List.cons.inj hinner
        rw [lead?_eq_some_iff.mpr ⟨hbody, rfl⟩] at h
        cases h
    · -- The bracket is in the body, which has none.
      exact open_ne_close hfirst (fun hmem => hbody.no_open (List.mem_append_right middle hmem)) rest after
        hinner

/-- Text before an opening bracket has no tag that reaches beyond it. -/
theorem lead?_append_open {text : Text} (h : lead? text = none) (hne : text ≠ [])
    (hlast : text.getLast? ≠ some '\\') (rest : Text) : lead? (text ++ '[' :: rest) = none :=
  lead?_append_before_open h hne hlast List.not_mem_nil rest

/-- Text before an opening bracket and text from there on are protected apart. -/
theorem protect_append_open {text : Text} (hlast : text.getLast? ≠ some '\\') (rest : Text) :
    protect (text ++ '[' :: rest) = protect text ++ protect ('[' :: rest) := by
  induction text using lead_induction with
  | nil => rw [List.nil_append, protect_nil, List.nil_append]
  | tag slashes body after hbody ih =>
    have hafter : after.getLast? ≠ some '\\' :=
      getLast?_ne_of_suffix ⟨Text.repeated slashes '\\' ++ '[' :: (body ++ [']']), by simp⟩ hlast
    have hlead := lead?_tag hbody slashes after
    have hlonger : lead? (Text.repeated slashes '\\' ++ '[' :: (body ++ ']' :: after) ++ '[' :: rest) =
        some (slashes, body, after ++ '[' :: rest) := lead?_eq_some_iff.mpr ⟨hbody, by simp⟩
    rw [protect_of_lead? hlead, protect_of_lead? hlonger, ih hafter]
    simp
  | char c text hlead ih =>
    have hlonger := lead?_append_open hlead (List.cons_ne_nil c text) hlast rest
    have htext := getLast?_ne_of_suffix (List.suffix_cons c text) hlast
    rw [List.cons_append] at hlonger ⊢
    rw [protect_cons_of_lead? hlonger, protect_cons_of_lead? hlead, ih htext, List.cons_append]

/-- Text before a text needs no protection if it has no opening bracket and no backslash. -/
theorem protect_append_plain {text : Text} (h : text.all (fun c => c != '[' && c != '\\') = true)
    (rest : Text) :
    protect (text ++ rest) = text ++ protect rest := by
  induction text with
  | nil => rfl
  | cons c text ih =>
    simp only [List.all_cons, Bool.and_eq_true, bne_iff_ne, ne_eq] at h
    obtain ⟨⟨hopen, hslash⟩, htext⟩ := h
    have hlead : lead? (c :: (text ++ rest)) = none := by
      simp [lead?, hslash, hopen]
    rw [List.cons_append, protect_cons_of_lead? hlead, ih htext, List.cons_append]

/-- Protecting a text leaves its last character in place. -/
theorem getLast?_protect (text : Text) : (protect text).getLast? = text.getLast? := by
  induction text using lead_induction with
  | nil => rw [protect_nil]
  | tag slashes body after hbody ih =>
    rw [protect_of_lead? (lead?_tag hbody slashes after)]
    simp [List.getLast?_append, List.getLast?_cons, ih]
  | char c rest hlead ih =>
    rw [protect_cons_of_lead? hlead, List.getLast?_cons, List.getLast?_cons, ih]

/-- Protecting a text adds nothing but backslashes. -/
theorem mem_protect {text : Text} {c : Char} (h : c ∈ protect text) : c ∈ text ∨ c = '\\' := by
  induction text using lead_induction with
  | nil =>
    rw [protect_nil] at h
    cases h
  | tag slashes body after hbody ih =>
    rw [protect_of_lead? (lead?_tag hbody slashes after)] at h
    simp only [List.mem_append, List.mem_cons] at h ⊢
    obtain h | h | h | h | h := h
    · exact .inr (List.eq_of_mem_replicate h)
    · exact .inl (.inr (.inl h))
    · exact .inl (.inr (.inr (.inl h)))
    · exact .inl (.inr (.inr (.inr (.inl h))))
    · exact (ih h).imp_left fun h => .inr (.inr (.inr (.inr h)))
  | char d rest hlead ih =>
    rw [protect_cons_of_lead? hlead, List.mem_cons] at h
    obtain rfl | h := h
    · exact .inl List.mem_cons_self
    · exact (ih h).imp_left (List.mem_cons_of_mem d)

/-- Whether a text ends in a backslash that stands alone. -/
def endsInLoneBackslash (text : Text) : Bool :=
  text.getLast? == some '\\' && text.dropLast.getLast? != some '\\'

/-- The two endings that are compared tell whether the last backslash is alone. -/
theorem endsInLoneBackslash_eq_suffix (text : Text) :
    endsInLoneBackslash text = (['\\'].isSuffixOf text && !(['\\', '\\'].isSuffixOf text)) := by
  -- Read from the end, the last two characters decide.
  obtain ⟨backwards, rfl⟩ : ∃ backwards, text = List.reverse backwards := ⟨text.reverse, by simp⟩
  match backwards with
  | [] => rfl
  | [c] =>
    have hprefix : ['\\'].isSuffixOf [c] = ('\\' == c) := Bool.and_true _
    have hsecond : ['\\', '\\'].isSuffixOf [c] = false := Bool.and_false _
    rw [List.reverse_singleton, hprefix, hsecond, Bool.beq_comm]
    exact congrArg (· && true) (Option.some_beq_some)
  | c :: d :: rest =>
    simp only [endsInLoneBackslash, List.isSuffixOf, List.reverse_cons, List.reverse_append, List.reverse_nil,
      List.reverse_reverse, List.nil_append, List.cons_append, List.isPrefixOf, List.getLast?_concat,
      List.dropLast_concat, Bool.and_true, Option.some_beq_some, bne]
    rw [Bool.beq_comm (a := c), Bool.beq_comm (a := d)]
    cases '\\' == c <;> rfl

/-- Protecting a text neither adds nor takes a lone backslash at its end. -/
theorem endsInLoneBackslash_protect (text : Text) :
    endsInLoneBackslash (protect text) = endsInLoneBackslash text := by
  obtain rfl | ⟨before, c, rfl⟩ := List.eq_nil_or_concat text
  · rw [protect_nil]
  · by_cases hc : c = '\\'
    · subst hc
      rw [List.concat_eq_append, protect_append (by decide)]
      simp only [endsInLoneBackslash, List.getLast?_concat, List.dropLast_concat, getLast?_protect]
    · have hlast := getLast?_protect (before.concat c)
      rw [List.concat_eq_append, List.getLast?_concat] at hlast
      have hne : (some c == some '\\') = false := by simpa using hc
      rw [List.concat_eq_append, endsInLoneBackslash, endsInLoneBackslash, hlast, List.getLast?_concat, hne,
        Bool.false_and, Bool.false_and]

/-- A text made safe is a protected text: that with a lone backslash at its end doubled. -/
theorem escape_eq (text : Text) :
    escape text = protect (text ++ if endsInLoneBackslash text then ['\\'] else []) := by
  have hcondition := endsInLoneBackslash_eq_suffix (protect text)
  rw [endsInLoneBackslash_protect] at hcondition
  have hescape : escape text =
      if endsInLoneBackslash text then protect text ++ ['\\'] else protect text := by
    rw [hcondition]
    rfl
  rw [hescape]
  split
  · rw [protect_append (by decide)]
  · rw [List.append_nil]

/-- Making a text safe brings in nothing but backslashes. -/
theorem mem_escape {text : Text} {c : Char} (h : c ∈ escape text) : c ∈ text ∨ c = '\\' := by
  rw [escape_eq] at h
  obtain h | h := mem_protect h
  · refine (List.mem_append.mp h).imp_right fun h => ?_
    split at h
    · exact List.mem_singleton.mp h
    · cases h
  · exact .inr h

end TemplateAudit.StyleTag
