import TemplateAudit.Text.Case

namespace TemplateAudit

/-- How an attribute takes part in template bindings. -/
inductive BindingKind where
  | plain
  | input
  | output
deriving DecidableEq, Repr

/-- An attribute name split into decoration and logical name; `offset` is where the logical name
    starts inside the written one. -/
structure Binding where
  kind : BindingKind
  logicalName : Text
  offset : Nat
deriving DecidableEq, Repr

namespace Binding

/-- Decoration on both sides of a name. -/
structure Wrapper where
  opening : Text
  closing : Text
  kind : BindingKind

/-- The bracketed forms, the two-way form first because it starts and ends like the input form. -/
def wrappers : List Wrapper :=
  [⟨"[(", ")]", .input⟩, ⟨"[", "]", .input⟩, ⟨"(", ")", .output⟩]

/-- The keyword forms with the kind they bind, the longest first: `bindon-` must win over a keyword
    it might contain. Their letter case does not matter. -/
def keywords : List (Text × BindingKind) :=
  [("bindon-", .input), ("bind-", .input), ("on-", .output)]

/-- Whether a wrapper surrounds a non-empty name. -/
def Wrapper.surrounds (wrapper : Wrapper) (raw : Text) : Bool :=
  wrapper.opening.isPrefixOf raw && wrapper.closing.isSuffixOf raw
    && wrapper.opening.length + wrapper.closing.length < raw.length

/-- Whether a keyword in any letter case stands before a non-empty name. -/
def keywordLeads (raw lowered : Text) (keyword : Text × BindingKind) : Bool :=
  keyword.1.isPrefixOf lowered && keyword.1.length < raw.length

/-- Split a written attribute name. Bracketed forms are tried before keyword forms. A name in square brackets or after
    `bind-` binds an input, a name in parentheses or after `on-` binds an output, and the two-way forms `[(…)]` and
    `bindon-` count as the input they contain. All other names, those with empty or unbalanced decoration among them,
    are plain. -/
def classify (raw : Text) : Binding :=
  match wrappers.find? (·.surrounds raw) with
  | some wrapper =>
    { kind := wrapper.kind
      logicalName := raw.slice wrapper.opening.length (raw.length - wrapper.closing.length)
      offset := wrapper.opening.length }
  | none =>
    match keywords.find? (keywordLeads raw raw.lower) with
    | some (keyword, kind) =>
      { kind := kind, logicalName := raw.drop keyword.length, offset := keyword.length }
    | none => { kind := .plain, logicalName := raw, offset := 0 }

end Binding

end TemplateAudit
