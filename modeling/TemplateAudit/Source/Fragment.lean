import TemplateAudit.ArgumentError

namespace TemplateAudit

/-- Where the text of a fragment comes from. -/
inductive FragmentKind where
  /-- A string literal inside a component source. -/
  | inline
  /-- A template file of its own. -/
  | external
deriving DecidableEq, Repr

/-- Template text and the offset of its first character in the enclosing buffer. The path serves
    presentation only. -/
structure Fragment where
  text : Text
  baseOffset : Int
  kind : FragmentKind
  path : Option Text
deriving DecidableEq, Repr

namespace Fragment

/-- The literal from `start` up to `stop` of a source, its quotes included. -/
def inline (source : Text) (start stop : Int) (path : Option Text) :
    Except ArgumentError Fragment :=
  if start < 0 || stop < start || stop > source.length then
    .error (.spanOutside start stop source.length)
  else .ok ⟨source.slice start.toNat stop.toNat, start, .inline, path⟩

/-- A literal is a span of its source, with the offset of its start. -/
theorem span_of_inline {source : Text} {start stop : Int} {path : Option Text} {fragment : Fragment}
    (h : inline source start stop path = .ok fragment) :
    0 ≤ start ∧ start ≤ stop ∧ stop ≤ source.length ∧
      fragment = ⟨source.slice start.toNat stop.toNat, start, .inline, path⟩ := by
  unfold inline at h
  split at h
  · cases h
  · next hspan =>
    simp only [Bool.or_eq_true, decide_eq_true_eq, not_or] at hspan
    exact ⟨by omega, by omega, by omega, (Except.ok.inj h).symm⟩

/-- A whole template file. -/
def external (text : Text) (path : Option Text) : Fragment := ⟨text, 0, .external, path⟩

end Fragment

/-- The name of a fragment kind in log messages. -/
def FragmentKind.label : FragmentKind → Text
  | .inline => "inline"
  | .external => "external"

end TemplateAudit
