import TemplateAudit.Diagnostic.Basic
import TemplateAudit.Proofs.Source.Position
import TemplateAudit.Proofs.Text.Run

namespace TemplateAudit

/-- Where a position in a part lies in the whole, if the part starts at `base`. -/
def Position.translate (base inner : Position) : Position :=
  if inner.line = 1 then ⟨base.line, base.column + inner.column - 1⟩
  else ⟨base.line + inner.line - 1, inner.column⟩

namespace Source

/-- Only what stands behind the last line feed belongs to the line. -/
theorem lineHead_append_of_mem {after : Text} (h : '\n' ∈ after) (before : Text) :
    lineHead (before ++ after) = lineHead after := by
  obtain ⟨first, rest, rfl⟩ := List.append_of_mem h
  rw [← List.append_assoc, lineHead_newline, lineHead_newline]

theorem positionAt_of_newline {source : Text} {offset : Nat} (h : '\n' ∈ source.take offset) :
    (positionAt source offset).line ≠ 1 := by
  have hcount : 0 < (source.take offset).count '\n' := List.count_pos_iff.mpr h
  simp only [positionAt]
  omega

theorem positionAt_of_no_newline {source : Text} {offset : Nat} (h : '\n' ∉ source.take offset) :
    positionAt source offset = ⟨1, (source.take offset).length + 1⟩ := by
  have hhead : lineHead (source.take offset) = source.take offset := by
    simpa [lineHead] using lineHead_append h []
  rw [positionAt, hhead, List.count_eq_zero.mpr h]

/-- What lies further on has its position in the rest, moved to where the rest starts. -/
theorem positionAt_add (source : Text) (start offset : Nat) :
    positionAt source (start + offset) =
      (positionAt source start).translate (positionAt (source.drop start) offset) := by
  have htake : source.take (start + offset) = source.take start ++ (source.drop start).take offset :=
    List.take_add
  by_cases hline : '\n' ∈ (source.drop start).take offset
  · rw [Position.translate, if_neg (positionAt_of_newline hline)]
    simp only [positionAt, htake, List.count_append, lineHead_append_of_mem hline]
    congr 1
    omega
  · rw [Position.translate, positionAt_of_no_newline hline, if_pos rfl]
    simp only [positionAt, htake, List.count_append, List.count_eq_zero.mpr hline, lineHead_append hline,
      List.length_append]
    congr 1
    omega

end Source

/-- A place in a literal has, in the source, its position in the literal moved to where the literal starts:
    columns add up in its first line, and lines do in the others. So has every diagnostic found there. -/
theorem position_of_inline {source : Text} {start stop : Int} {path : Option Text} {fragment : Fragment}
    (h : Fragment.inline source start stop path = .ok fragment) :
    ∃ base, Source.position source start = .ok base ∧
      (∀ offset : Int, 0 ≤ offset → offset ≤ stop - start →
        ∃ inner, Source.position fragment.text offset = .ok inner ∧
          Source.position source (start + offset) = .ok (base.translate inner)) ∧
      ∀ diagnostic : Diagnostic, 0 ≤ diagnostic.start → diagnostic.start ≤ stop - start →
        ∃ inner, Source.position fragment.text diagnostic.start = .ok inner ∧
          (diagnostic.locate fragment).position source = .ok (base.translate inner) := by
  obtain ⟨hstart, hspan, hstop, rfl⟩ := Fragment.span_of_inline h
  obtain ⟨start, rfl⟩ := Int.eq_ofNat_of_zero_le hstart
  obtain ⟨stop, rfl⟩ := Int.eq_ofNat_of_zero_le (Int.le_trans hstart hspan)
  rw [Int.toNat_natCast, Int.toNat_natCast]
  have hlength : (source.slice start stop).length = stop - start := Text.length_slice (by omega) start
  have hplace : ∀ offset : Int, 0 ≤ offset → offset ≤ (stop : Int) - start →
      ∃ inner, Source.position (source.slice start stop) offset = .ok inner ∧
        Source.position source (start + offset) = .ok ((Source.positionAt source start).translate inner) := by
    intro offset hnonneg hinside
    obtain ⟨offset, rfl⟩ := Int.eq_ofNat_of_zero_le hnonneg
    have hoffset : offset ≤ stop - start := by omega
    -- Up to the offset, the literal is what the source goes on with.
    have hsame : Source.positionAt (source.slice start stop) offset =
        Source.positionAt (source.drop start) offset := by
      rw [Source.positionAt, Source.positionAt, Text.slice, List.take_take, Nat.min_eq_left hoffset]
    refine ⟨_, Source.position_natCast_of_le (by omega), ?_⟩
    rw [← Int.natCast_add, Source.position_natCast_of_le (by omega), Source.positionAt_add, hsame]
  exact ⟨_, Source.position_natCast_of_le (by omega), hplace, fun diagnostic => hplace diagnostic.start⟩

/-- In a literal of two lines, which starts in the second line of its source, columns add up in the first line
    of the literal and lines in the second. -/
theorem position_of_inline_two_lines :
    let source : Text := "x\nt = 'ab\ncd'"
    ∃ fragment, Fragment.inline source 6 13 none = .ok fragment ∧ fragment.text = "'ab\ncd'" ∧
      Source.position source 6 = .ok ⟨2, 5⟩ ∧
      Source.position fragment.text 2 = .ok ⟨1, 3⟩ ∧ Source.position source (6 + 2) = .ok ⟨2, 7⟩ ∧
      Source.position fragment.text 5 = .ok ⟨2, 2⟩ ∧ Source.position source (6 + 5) = .ok ⟨3, 2⟩ := by
  intro source
  have hinline : Fragment.inline source 6 13 none = .ok ⟨"'ab\ncd'", 6, .inline, none⟩ := rfl
  have hbase : Source.position source 6 = .ok ⟨2, 5⟩ := rfl
  have hfirst : Source.position "'ab\ncd'" 2 = .ok ⟨1, 3⟩ := rfl
  have hlater : Source.position "'ab\ncd'" 5 = .ok ⟨2, 2⟩ := rfl
  obtain ⟨base, hstart, hplace, _⟩ := position_of_inline hinline
  obtain rfl := Except.ok.inj (hbase.symm.trans hstart)
  obtain ⟨first, hfirst', hmoved⟩ := hplace 2 (by omega) (by omega)
  obtain ⟨later, hlater', hmoved'⟩ := hplace 5 (by omega) (by omega)
  obtain rfl := Except.ok.inj (hfirst.symm.trans hfirst')
  obtain rfl := Except.ok.inj (hlater.symm.trans hlater')
  exact ⟨_, hinline, rfl, hbase, hfirst, hmoved, hlater, hmoved'⟩

end TemplateAudit
