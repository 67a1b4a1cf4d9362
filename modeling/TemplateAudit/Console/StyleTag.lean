import TemplateAudit.Console.Action
import TemplateAudit.Console.Control
import TemplateAudit.Console.Emoji
import TemplateAudit.Console.StyleName

namespace TemplateAudit

/-- Why console text cannot be shown. -/
inductive StyleTagError where
  /-- A closing tag whose style is not open. -/
  | notOpen (tag : Text) (position : Nat)
  /-- A closing tag without name where no tag is open. -/
  | nothingOpen (position : Nat)
  /-- A tag whose action is refused. -/
  | action (error : ActionError)
  /-- A style with a number that cannot be read. -/
  | number (fault : Style.NumberFault)
deriving DecidableEq, Repr

/-- What is reported for console text that cannot be shown. -/
def StyleTagError.message : StyleTagError → Text
  | .notOpen tag position =>
    "closing tag '" ++ tag ++ "' at position " ++ Text.ofNat position
      ++ " doesn't match any open tag"
  | .nothingOpen position =>
    "closing tag '[/]' at position " ++ Text.ofNat position ++ " has nothing to close"
  | .action error => error.message
  | .number fault => fault.message

namespace StyleTag

/-- The characters with which the inside of a tag may start. -/
def startsTag (c : Char) : Bool :=
  ('a' ≤ c && c ≤ 'z') || c == '#' || c == '/' || c == '@'

/-- The inside of the tag that an opening bracket right before `text` starts, and what follows
    it. -/
def body? (text : Text) : Option (Text × Text) :=
  match text with
  | [] => none
  | c :: rest =>
    if startsTag c then
      match rest.dropWhile fun c => c != '[' && c != ']' with
      | ']' :: after => some (c :: rest.takeWhile (fun c => c != '[' && c != ']'), after)
      | _ => none
    else none

/-- The backslashes before a tag, its inside, and what follows it, if the text starts with a tag. -/
def lead? (text : Text) : Option (Nat × Text × Text) :=
  match text.dropWhile (· == '\\') with
  | '[' :: rest =>
    (body? rest).map fun (body, after) =>
      ((text.takeWhile (· == '\\')).length, body, after)
  | _ => none

theorem length_of_body? {text body after : Text} (h : body? text = some (body, after)) :
    after.length < text.length := by
  unfold body? at h
  split at h
  · simp at h
  · next c rest =>
    split at h
    · split at h
      · next hdrop =>
        have := Text.length_lt_of_dropWhile_eq_cons hdrop
        grind
      · simp at h
    · simp at h

/-- A tag takes at least one character, so cutting a text at its tags ends. -/
theorem length_of_lead? {text body after : Text} {slashes : Nat}
    (h : lead? text = some (slashes, body, after)) : after.length < text.length := by
  unfold lead? at h
  split at h
  · next rest hdrop =>
    simp only [Option.map_eq_some_iff, Prod.exists, Prod.mk.injEq] at h
    obtain ⟨body', after', hbody, _, _, rfl⟩ := h
    have := Text.length_lt_of_dropWhile_eq_cons hdrop
    have := length_of_body? hbody
    omega
  · simp at h

/-- The text with backslashes before everything that would be taken for a tag, so that showing it
    gives the tags as plain text. -/
def protect (text : Text) : Text :=
  match _h : lead? text with
  | some (slashes, body, after) =>
    Text.repeated (2 * slashes + 1) '\\' ++ '[' :: (body ++ ']' :: protect after)
  | none =>
    match text with
    | [] => []
    | c :: rest => c :: protect rest
termination_by text.length
decreasing_by
  · exact length_of_lead? (by assumption)
  · simp

/-- The text made safe to stand in console text. A single backslash at its end is doubled, so that
    it does not protect a tag that follows. -/
def escape (text : Text) : Text :=
  let safe := protect text
  if ("\\" : Text).isSuffixOf safe && !("\\\\" : Text).isSuffixOf safe then safe ++ "\\" else safe

/-- A piece of console text. -/
inductive Token where
  /-- Text between tags. -/
  | plain (text : Text)
  /-- Backslashes, or a tag that a backslash turned into text. -/
  | literal (text : Text)
  /-- The inside of a tag, and the position of the tag in the text. -/
  | tag (body : Text) (position : Nat)
deriving DecidableEq, Repr

/-- Put a character before tokens; neighbouring plain characters form one token. -/
def consPlain (c : Char) : List Token → List Token
  | .plain text :: rest => .plain (c :: text) :: rest
  | tokens => .plain [c] :: tokens

/-- The tokens of a tag with backslashes before it. -/
def leadTokens (position slashes : Nat) (body : Text) : List Token :=
  let shown := Text.repeated (slashes / 2) '\\'
  (if shown.isEmpty then [] else [.literal shown])
    ++ [if slashes % 2 = 1 then .literal ('[' :: (body ++ [']']))
      else .tag body (position + 2 * (slashes / 2))]

/-- Cut console text, whose first character stands at `position`, at its tags. -/
def tokens (position : Nat) (text : Text) : List Token :=
  match _h : lead? text with
  | some (slashes, body, after) =>
    leadTokens position slashes body ++ tokens (position + slashes + body.length + 2) after
  | none =>
    match text with
    | [] => []
    | c :: rest => consPlain c (tokens (position + 1) rest)
termination_by text.length
decreasing_by
  · exact length_of_lead? (by assumption)
  · simp

/-- Drop the backslash of every backslash and opening bracket. -/
def unprotect : Text → Text
  | [] => []
  | [c] => [c]
  | c :: d :: rest =>
    if c = '\\' && d = '[' then '[' :: unprotect rest else c :: unprotect (d :: rest)

/-- The style that a tag names: what stands before the first equals sign. -/
def styleName (body : Text) : Text := body.takeWhile (· != '=')

/-- What stands after the first equals sign of a tag. -/
def parameters? (body : Text) : Option Text :=
  match body.dropWhile (· != '=') with
  | _ :: parameters => some parameters
  | [] => none

/-- A tag that is open: its style, where the text that it covers starts, and whether that text has
    something besides line feeds. -/
structure OpenTag where
  name : Text
  parameters : Option Text
  start : Nat
  covers : Bool
deriving DecidableEq, Repr

namespace OpenTag

/-- The whole style of a tag. -/
def style (tag : OpenTag) : Text :=
  match tag.parameters with
  | some parameters => tag.name ++ " " ++ parameters
  | none => tag.name

/-- The tag after some more text that it covers. -/
def covering (text : Text) (tag : OpenTag) : OpenTag :=
  { tag with covers := tag.covers || text.any (· != '\n') }

/-- Whether a tag carries an action. -/
def hasAction (tag : OpenTag) : Bool := tag.name.head? = some '@'

/-- The styles in which a closed tag shows its text. An action is checked and shows nothing. -/
def close (tag : OpenTag) : Except StyleTagError (List OpenTag) :=
  if tag.hasAction then do
    match tag.parameters with
    | some (c :: action) => (Action.check (c :: action)).mapError .action
    | _ => pure ()
    return []
  else return [tag]

end OpenTag

/-- Open a tag at a position of the shown text. -/
def opening (position : Nat) (body : Text) : Except StyleTagError OpenTag := do
  let name ← (Style.canonical (styleName body)).mapError .number
  return ⟨name, parameters? body, position, false⟩

/-- Find the tag that a closing tag closes, and the tags that stay open, or the reason why there is
    nothing to close. -/
def closing (opened : List OpenTag) (body : Text) (position : Nat) :
    Except StyleTagError (OpenTag × List OpenTag) :=
  let name := Text.trim ((styleName body).drop 1)
  if name.isEmpty then
    match opened with
    | [] => .error (.nothingOpen position)
    | tag :: rest => .ok (tag, rest)
  else do
    let wanted ← (Style.canonical name).mapError .number
    match opened.find? (·.name == wanted) with
    | some tag => .ok (tag, opened.eraseP (·.name == wanted))
    | none => .error (.notOpen ('[' :: (body ++ [']'])) position)

/-- The text that tokens show while the given tags are open, the innermost first, and the tags that
    cover it in the order in which they are closed. `position` characters are shown before it. -/
def showTokens (position : Nat) (opened : List OpenTag) :
    List Token → Except StyleTagError (Text × List OpenTag)
  | [] => .ok ([], opened)
  | .plain text :: rest | .literal text :: rest => do
    let shown := (Emoji.replaceCodes (unprotect text)).filter (!Console.isDropped ·)
    let (later, tags) ← showTokens (position + shown.length) (opened.map (·.covering shown)) rest
    return (shown ++ later, tags)
  | .tag body place :: rest =>
    if body.head? = some '/' then do
      let (tag, opened) ← closing opened body place
      let closed ← tag.close
      let (later, tags) ← showTokens position opened rest
      return (later, closed ++ tags)
    else do
      let tag ← opening position body
      showTokens position (tag :: opened) rest

/-- The first number that cannot be read in the styles of tags that cover a text, from its start on.
    Of a text with several lines, tags that show nothing are left out. -/
def numberFault? (text : Text) (tags : List OpenTag) : Option Style.NumberFault :=
  let shown := if text.contains '\n' then tags.filter (·.covers) else tags
  (shown.reverse.mergeSort fun a b => a.start ≤ b.start).findSome? fun tag =>
    Style.numberFault? tag.style

/-- The text that console text shows. A tag is a name in square brackets that starts with a small letter, `#`, `/` or
    `@`; it is not shown. Of the backslashes right before a tag every two stand for one, and an odd one turns the tag
    into plain text. A tag that starts with a slash closes the innermost open tag of the same style, or the innermost
    one of all if it has no name. Closing a tag with an action checks the action, and showing the text checks the
    styles of all tags that show something. -/
def shown (text : Text) : Except StyleTagError Text := do
  let (shown, tags) ← showTokens 0 [] (tokens 0 text)
  match numberFault? shown tags with
  | some fault => throw (.number fault)
  | none => return shown

end StyleTag

end TemplateAudit
