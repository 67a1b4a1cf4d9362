import Mathlib
import TemplateAudit.Proofs.Source.Translation
import TemplateAudit.Proofs.Steps
import TemplateAudit.Proofs.Text.Pieces

namespace TemplateAudit

namespace Source

/-- The lines of a source: what stands between its line feeds. -/
def lines (source : Text) : List Text := Text.splitAll '\n' source

/-- The number of characters that lines take, each with the line feed behind it. -/
def extent (lines : List Text) : Nat := (lines.map fun line => line.length + 1).sum

end Source

/-- The position of a place in a source: on the given one of its lines, in it or right behind it, and with as
    many characters before as the place has before it. -/
structure Position.IsAt (position : Position) (source : Text) (place : Nat) (line : Text) : Prop where
  line_pos : 1 ≤ position.line
  line_le : position.line ≤ (Source.lines source).length
  line_eq : (Source.lines source)[position.line - 1]? = some line
  column_pos : 1 ≤ position.column
  column_le : position.column ≤ line.length + 1
  place_eq : Source.extent ((Source.lines source).take (position.line - 1)) + (position.column - 1) = place

/-- The order of positions: by line, and by column in the same line. -/
def Position.Before (first second : Position) : Prop :=
  first.line < second.line ∨ first.line = second.line ∧ first.column < second.column

theorem Position.Before.asymm {first second : Position} (h : first.Before second) : ¬ second.Before first := by
  unfold Before at h ⊢
  omega

namespace Source

theorem extent_append (first second : List Text) : extent (first ++ second) = extent first + extent second := by
  simp [extent]

/-- The lines of a text end in the one that is not yet complete, and there is one for each line feed before. -/
theorem exists_lines_before (before : Text) :
    ∃ init, lines before = init ++ [lineHead before] ∧ init.length = before.count '\n' ∧
      extent init + (lineHead before).length = before.length := by
  induction before using List.reverseRecOn with
  | nil => exact ⟨[], rfl, rfl, rfl⟩
  | append_singleton before c ih =>
    obtain ⟨init, hlines, hcount, hextent⟩ := ih
    obtain ⟨complete, last, first, rest, hbefore, hafter, happend⟩ := Text.splitAll_append '\n' before [c]
    obtain ⟨rfl, hlast⟩ := List.append_inj' (hlines.symm.trans hbefore) rfl
    obtain rfl := List.singleton_inj.mp hlast
    rw [lines, happend, List.count_append, List.length_append]
    by_cases hc : c = '\n'
    · subst hc
      obtain ⟨rfl, rfl⟩ : [] = first ∧ [[]] = rest := List.cons.inj hafter
      have hhead : lineHead (before ++ ['\n']) = [] := lineHead_newline before []
      have hline : extent [lineHead before] = (lineHead before).length + 1 := by simp [extent]
      refine ⟨init ++ [lineHead before], by simp [hhead], by simp [hcount], ?_⟩
      rw [hhead, extent_append, hline, List.length_nil, List.length_singleton]
      omega
    · have hno : '\n' ∉ [c] := by simp [Ne.symm hc]
      obtain ⟨rfl, rfl⟩ : [c] = first ∧ [] = rest :=
        List.cons.inj ((Text.splitAll_of_notMem hno).symm.trans hafter)
      refine ⟨init, by rw [lineHead_append hno], by simp [hcount, hc], ?_⟩
      rw [lineHead_append hno, List.length_append]
      omega

/-- Around a place stands the line that its position names. -/
theorem isAt_positionAt {source : Text} {place : Nat} (hplace : place ≤ source.length) :
    (positionAt source place).IsAt source place
      (lineHead (source.take place) ++ (source.drop place).takeWhile (· != '\n')) := by
  obtain ⟨init, hlines, hcount, hextent⟩ := exists_lines_before (source.take place)
  obtain ⟨complete, last, first, rest, hbefore, hafter, happend⟩ :=
    Text.splitAll_append '\n' (source.take place) (source.drop place)
  obtain ⟨rfl, hlast⟩ := List.append_inj' (hlines.symm.trans hbefore) rfl
  obtain rfl := List.singleton_inj.mp hlast
  rw [List.take_append_drop, ← Text.takeWhile_of_splitAll hafter] at happend
  have hline : (positionAt source place).line - 1 = init.length := by
    simp [positionAt, hcount]
  rw [List.length_take_of_le hplace] at hextent
  constructor
  case line_pos => simp [positionAt]
  case line_le => simp [positionAt, lines, happend, hcount]
  case line_eq => simp [lines, happend, hline]
  case column_pos => simp [positionAt]
  case column_le => simp [positionAt]
  case place_eq =>
    rw [hline, lines, happend, List.take_left]
    simpa [positionAt] using hextent

/-- Of the line around a place only carriage returns at the end are left out. -/
theorem exists_lineAt_append (source : Text) (place : Nat) :
    ∃ returns, lineHead (source.take place) ++ (source.drop place).takeWhile (· != '\n') =
      lineAt source place ++ Text.repeated returns '\r' ∧ (lineAt source place).getLast? ≠ some '\r' := by
  obtain ⟨returns, hline, hreturns, hlast⟩ := Text.exists_dropWhileEnd (· == '\r')
    (lineHead (source.take place) ++ (source.drop place).takeWhile (· != '\n'))
  have hrepeated : returns = Text.repeated returns.length '\r' :=
    List.eq_replicate_of_mem fun c hc => by simpa using hreturns c hc
  refine ⟨returns.length, ?_, fun hreturn => ?_⟩
  · rw [← hrepeated]
    exact hline
  · simpa using hlast _ hreturn

/-- Further on in a source is further on in its lines. -/
theorem positionAt_before {source : Text} {first second : Nat} (hlt : first < second)
    (hinside : second ≤ source.length) : (positionAt source first).Before (positionAt source second) := by
  have hsecond : first + (second - first) = second := by omega
  have hlength : ((source.drop first).take (second - first)).length = second - first := by
    simp
    omega
  rw [← hsecond, positionAt_add, Position.translate]
  by_cases hline : '\n' ∈ (source.drop first).take (second - first)
  · have hlater := positionAt_of_newline hline
    rw [if_neg hlater]
    refine .inl ?_
    simp only [positionAt] at hlater ⊢
    omega
  · rw [positionAt_of_no_newline hline, if_pos rfl]
    refine .inr ⟨rfl, ?_⟩
    simp only
    omega

/-- Positions come in the order of their offsets. -/
theorem positionAt_before_iff {source : Text} {first second : Nat} (hfirst : first ≤ source.length)
    (hsecond : second ≤ source.length) :
    (positionAt source first).Before (positionAt source second) ↔ first < second := by
  refine ⟨fun hbefore => ?_, fun hlt => positionAt_before hlt hsecond⟩
  by_contra hnot
  obtain rfl | hlt := Nat.eq_or_lt_of_not_lt hnot
  · exact hbefore.asymm hbefore
  · exact hbefore.asymm (positionAt_before hlt hfirst)

/-- No two offsets have the same position. -/
theorem positionAt_inj {source : Text} {first second : Nat} (hfirst : first ≤ source.length)
    (hsecond : second ≤ source.length) :
    positionAt source first = positionAt source second ↔ first = second := by
  refine ⟨fun hsame => ?_, fun hsame => by rw [hsame]⟩
  have hplace := (isAt_positionAt hfirst).place_eq
  rw [hsame, (isAt_positionAt hsecond).place_eq] at hplace
  exact hplace.symm

/-- Every offset from zero on has a position, which tells the place it stands for, and a line, which is the one
    that the position names without the carriage returns at its end. Places and their positions are in the same
    order, and only negative offsets have neither position nor line. -/
theorem position_isAt_line (source : Text) :
    (∀ offset : Nat, ∃ position line shown returns,
      Source.position source offset = .ok position ∧ Source.line source offset = .ok shown ∧
        position.IsAt source (min offset source.length) line ∧
        line = shown ++ Text.repeated returns '\r' ∧ shown.getLast? ≠ some '\r') ∧
      (∀ first second : Nat, ∃ earlier later,
        Source.position source first = .ok earlier ∧ Source.position source second = .ok later ∧
          (earlier = later ↔ min first source.length = min second source.length) ∧
          (earlier.Before later ↔ min first source.length < min second source.length)) ∧
      ∀ offset : Int, ((∃ error, Source.position source offset = .error error) ↔ offset < 0) ∧
        ((∃ error, Source.line source offset = .error error) ↔ offset < 0) := by
  have hinside (offset : Nat) : min offset source.length ≤ source.length := Nat.min_le_right _ _
  refine ⟨fun offset => ?_, fun first second => ?_, fun offset => ⟨?_, ?_⟩⟩
  · obtain ⟨returns, hline, hlast⟩ := exists_lineAt_append source (min offset source.length)
    exact ⟨_, _, _, returns, position_natCast source offset, line_natCast source offset,
      isAt_positionAt (hinside offset), hline, hlast⟩
  · exact ⟨_, _, position_natCast source first, position_natCast source second,
      positionAt_inj (hinside first) (hinside second), positionAt_before_iff (hinside first) (hinside second)⟩
  · simp only [Source.position, map_eq_error_iff, exists_clamp_eq_error_iff]
  · simp only [Source.line, map_eq_error_iff, exists_clamp_eq_error_iff]

end Source

end TemplateAudit
