import TemplateAudit.Proofs.Component.Load
import TemplateAudit.Proofs.Source.Position
import TemplateAudit.Proofs.Text.Newlines

namespace TemplateAudit

/-- Where a line end starts, and where the next line does. -/
structure LineEnd where
  start : Nat
  stop : Nat
deriving DecidableEq, Repr

namespace Text

/-- The line ends of a text whose first character stands at `offset`. A carriage return with the line feed
    after it is one line end; any other carriage return and any other line feed is one of its own. -/
def lineEndsFrom (offset : Nat) : Text → List LineEnd
  | [] => []
  | '\r' :: '\n' :: rest => ⟨offset, offset + 2⟩ :: lineEndsFrom (offset + 2) rest
  | c :: rest =>
    if c = '\r' ∨ c = '\n' then ⟨offset, offset + 1⟩ :: lineEndsFrom (offset + 1) rest
    else lineEndsFrom (offset + 1) rest

/-- The line ends of a text in order. -/
def lineEnds (text : Text) : List LineEnd := lineEndsFrom 0 text

/-- The line ends of a text up to a place in it. -/
def lineEndsBefore (text : Text) (place : Nat) : List LineEnd :=
  text.lineEnds.filter (·.stop ≤ place)

/-- The line and the column of a place in a text, whatever its line ends: each line end before the place
    starts a line, and the column counts from the last of them. -/
def writtenPosition (text : Text) (place : Nat) : Position :=
  ⟨1 + (text.lineEndsBefore place).length,
    1 + (place - ((text.lineEndsBefore place).map LineEnd.stop).getLastD 0)⟩

/-- A character other than the first of a pair ends a line by itself or not at all. -/
theorem lineEndsFrom_cons {c : Char} {rest : Text} (h : ∀ tail, c = '\r' → rest ≠ '\n' :: tail)
    (offset : Nat) :
    lineEndsFrom offset (c :: rest) =
      if c = '\r' ∨ c = '\n' then ⟨offset, offset + 1⟩ :: lineEndsFrom (offset + 1) rest
      else lineEndsFrom (offset + 1) rest := by
  rw [lineEndsFrom]
  exact h

/-- A line end lies within the text and is not empty. -/
theorem bounds_of_mem_lineEndsFrom {text : Text} {offset : Nat} {lineEnd : LineEnd}
    (h : lineEnd ∈ lineEndsFrom offset text) :
    offset ≤ lineEnd.start ∧ lineEnd.start < lineEnd.stop ∧ lineEnd.stop ≤ offset + text.length := by
  induction text using uniformNewlines.induct generalizing offset with
  | case1 => exact absurd h List.not_mem_nil
  | case2 rest ih =>
    rw [lineEndsFrom] at h
    simp only [List.length_cons]
    obtain rfl | h := List.mem_cons.mp h
    · exact ⟨Nat.le_refl _, by simp, by simp⟩
    · have hlater := ih h
      omega
  | case3 c rest hpair ih =>
    rw [lineEndsFrom_cons hpair] at h
    simp only [List.length_cons]
    split at h
    · obtain rfl | h := List.mem_cons.mp h
      · exact ⟨Nat.le_refl _, by simp, by simp⟩
      · have hlater := ih h
        omega
    · have hlater := ih h
      omega

/-- A cut that does not separate a line feed from what stands before it leaves the line ends whole. -/
theorem lineEndsFrom_append {after : Text} (hafter : ∀ tail, after ≠ '\n' :: tail) (before : Text)
    (offset : Nat) :
    lineEndsFrom offset (before ++ after) =
      lineEndsFrom offset before ++ lineEndsFrom (offset + before.length) after := by
  induction before using uniformNewlines.induct generalizing offset with
  | case1 => rfl
  | case2 rest ih =>
    simp only [List.cons_append, lineEndsFrom, ih, List.length_cons]
    rw [show offset + 2 + rest.length = offset + (rest.length + 1 + 1) by omega]
  | case3 c rest hpair ih =>
    have hpair' : ∀ tail, c = '\r' → rest ++ after ≠ '\n' :: tail := by
      intro tail hc h
      obtain ⟨_, h⟩ | ⟨tail, rfl, _⟩ := List.append_eq_cons_iff.mp h
      · exact hafter _ h
      · exact hpair tail hc rfl
    rw [List.cons_append, lineEndsFrom_cons hpair', lineEndsFrom_cons hpair, ih, List.length_cons,
      show offset + 1 + rest.length = offset + (rest.length + 1) by omega]
    split
    · rfl
    · rfl

/-- Such a cut also leaves the uniform text the same. -/
theorem uniformNewlines_append {after : Text} (hafter : ∀ tail, after ≠ '\n' :: tail) (before : Text) :
    uniformNewlines (before ++ after) = uniformNewlines before ++ uniformNewlines after := by
  induction before using uniformNewlines.induct with
  | case1 => rfl
  | case2 rest ih => simp only [List.cons_append, uniformNewlines, ih]
  | case3 c rest hpair ih =>
    have hpair' : ∀ tail, c = '\r' → rest ++ after ≠ '\n' :: tail := by
      intro tail hc h
      obtain ⟨_, h⟩ | ⟨tail, rfl, _⟩ := List.append_eq_cons_iff.mp h
      · exact hafter _ h
      · exact hpair tail hc rfl
    rw [List.cons_append, uniformNewlines_cons hpair', uniformNewlines_cons hpair, ih, List.cons_append]

/-- Carriage returns and line feeds belong to line ends. -/
theorem exists_lineEnd_of_newline {text : Text} {place : Nat} {c : Char} (hplace : text[place]? = some c)
    (hc : c = '\r' ∨ c = '\n') (offset : Nat) :
    ∃ lineEnd ∈ lineEndsFrom offset text,
      lineEnd.start ≤ offset + place ∧ offset + place < lineEnd.stop := by
  induction text using uniformNewlines.induct generalizing offset place with
  | case1 => simp at hplace
  | case2 rest ih =>
    rw [lineEndsFrom]
    obtain hpair | ⟨later, rfl⟩ : place < 2 ∨ ∃ later, place = later + 2 := by
      obtain hlt | hle := Nat.lt_or_ge place 2
      · exact .inl hlt
      · exact .inr ⟨place - 2, by omega⟩
    · exact ⟨_, List.mem_cons_self, Nat.le_add_right offset place, Nat.add_lt_add_left hpair offset⟩
    · obtain ⟨lineEnd, hmem, hle, hlt⟩ := ih hplace (offset + 2)
      exact ⟨lineEnd, List.mem_cons_of_mem _ hmem, by omega, by omega⟩
  | case3 first rest hpair ih =>
    rw [lineEndsFrom_cons hpair]
    cases place with
    | zero =>
      obtain rfl : first = c := by simpa using hplace
      rw [if_pos hc]
      exact ⟨_, List.mem_cons_self, by simp, by simp⟩
    | succ place =>
      obtain ⟨lineEnd, hmem, hle, hlt⟩ := ih hplace (offset + 1)
      refine ⟨lineEnd, ?_, by omega, by omega⟩
      split
      · exact List.mem_cons_of_mem _ hmem
      · exact hmem

/-- Each line end becomes one line feed. -/
theorem count_uniformNewlines (text : Text) (offset : Nat) :
    (uniformNewlines text).count '\n' = (lineEndsFrom offset text).length := by
  induction text using uniformNewlines.induct generalizing offset with
  | case1 => rfl
  | case2 rest ih => rw [uniformNewlines, lineEndsFrom, List.count_cons_self, List.length_cons, ih]
  | case3 c rest hpair ih =>
    rw [uniformNewlines_cons hpair, lineEndsFrom_cons hpair]
    by_cases hreturn : c = '\r'
    · rw [if_pos hreturn, if_pos (.inl hreturn), List.count_cons_self, List.length_cons, ih]
    · rw [if_neg hreturn]
      by_cases hfeed : c = '\n'
      · rw [hfeed, if_pos (.inr rfl), List.count_cons_self, List.length_cons, ih]
      · rw [if_neg (by simp [hreturn, hfeed]), List.count_cons_of_ne hfeed, ih]

/-- What stands after the last line end is as long as before. A part of its line may stand before the
    text. -/
theorem length_lineHead_uniformNewlines (text : Text) {before : Text} (hbefore : '\n' ∉ before)
    {start offset : Nat} (hoffset : start + before.length = offset) :
    (Source.lineHead (before ++ uniformNewlines text)).length +
      ((lineEndsFrom offset text).map LineEnd.stop).getLastD start = offset + text.length := by
  induction text using uniformNewlines.induct generalizing before start offset with
  | case1 =>
    rw [uniformNewlines, List.append_nil, ← List.nil_append before, Source.lineHead_append hbefore]
    simp only [Source.lineHead, lineEndsFrom, List.reverse_nil, List.takeWhile_nil, List.nil_append,
      List.map_nil, List.getLastD_nil, List.length_nil]
    omega
  | case2 rest ih =>
    have hrest := ih List.not_mem_nil (Nat.add_zero (offset + 2))
    rw [uniformNewlines, Source.lineHead_newline, lineEndsFrom, List.map_cons, List.getLastD_cons]
    simp only [List.nil_append] at hrest
    simp only [List.length_cons]
    omega
  | case3 c rest hpair ih =>
    rw [uniformNewlines_cons hpair, lineEndsFrom_cons hpair]
    by_cases hend : c = '\r' ∨ c = '\n'
    · have hnewline : (if c = '\r' then '\n' else c) = '\n' := by
        obtain rfl | rfl := hend <;> rfl
      have hrest := ih List.not_mem_nil (Nat.add_zero (offset + 1))
      rw [hnewline, if_pos hend, Source.lineHead_newline, List.map_cons, List.getLastD_cons]
      simp only [List.nil_append] at hrest
      simp only [List.length_cons]
      omega
    · obtain ⟨hreturn, hfeed⟩ := not_or.mp hend
      have hline : '\n' ∉ before ++ [c] := by
        simp only [List.mem_append, List.mem_singleton, not_or]
        exact ⟨hbefore, fun h => hfeed h.symm⟩
      have hlength : start + (before ++ [c]).length = offset + 1 := by
        rw [List.length_append, List.length_singleton]
        omega
      have hrest := ih hline hlength
      rw [if_neg hreturn, if_neg hend, ← List.singleton_append, ← List.append_assoc]
      simp only [List.length_cons]
      omega

/-- A character outside the line ends is neither a carriage return nor a line feed, so the text can be cut
    before it. -/
theorem exists_cut_of_not_lineEnd {text : Text} {place : Nat} (hplace : place < text.length)
    (hline : ∀ lineEnd ∈ text.lineEnds, ¬ (lineEnd.start ≤ place ∧ place < lineEnd.stop)) :
    ∃ c rest, text.drop place = c :: rest ∧ c ≠ '\r' ∧ c ≠ '\n' := by
  refine ⟨text[place], text.drop (place + 1), List.drop_eq_getElem_cons hplace, ?_⟩
  have hnot : ¬ (text[place] = '\r' ∨ text[place] = '\n') := by
    intro hc
    obtain ⟨lineEnd, hmem, hle, hlt⟩ :=
      exists_lineEnd_of_newline (List.getElem?_eq_getElem hplace) hc 0
    rw [Nat.zero_add] at hle hlt
    exact hline lineEnd hmem ⟨hle, hlt⟩
  exact not_or.mp hnot

/-- The line ends before such a character are those of the text up to it. -/
theorem lineEndsBefore_eq {text : Text} {place : Nat} (hplace : place ≤ text.length)
    (hcut : ∀ tail, text.drop place ≠ '\n' :: tail) :
    text.lineEndsBefore place = lineEndsFrom 0 (text.take place) := by
  have hlength : (text.take place).length = place := List.length_take_of_le hplace
  have hsplit := lineEndsFrom_append hcut (text.take place) 0
  rw [List.take_append_drop, hlength, Nat.zero_add] at hsplit
  rw [lineEndsBefore, lineEnds, hsplit, List.filter_append]
  have hbefore : (lineEndsFrom 0 (text.take place)).filter (·.stop ≤ place) =
      lineEndsFrom 0 (text.take place) := by
    refine List.filter_eq_self.mpr fun lineEnd hmem => ?_
    have hbounds := bounds_of_mem_lineEndsFrom hmem
    exact decide_eq_true (by omega)
  have hafter : (lineEndsFrom place (text.drop place)).filter (·.stop ≤ place) = [] := by
    refine List.filter_eq_nil_iff.mpr fun lineEnd hmem => ?_
    have hbounds := bounds_of_mem_lineEndsFrom hmem
    simp only [decide_eq_true_eq]
    omega
  rw [hbefore, hafter, List.append_nil]

end Text

/-- A file is read with uniform line ends, and a character of it that belongs to no line end has the line and
    the column there that it has in the file: it comes earlier by the pairs of carriage return and line feed
    before it, and its position is that of its place in the file. -/
theorem position_uniformNewlines (content : Text) :
    (∀ (files : FileSystem) (path : Path) (bytes : Bytes), files.readBytes path = .ok bytes →
        Utf8.decode bytes = .ok content → files.readText path = .ok content.uniformNewlines) ∧
      ∀ place < content.length,
        (∀ lineEnd ∈ content.lineEnds, ¬ (lineEnd.start ≤ place ∧ place < lineEnd.stop)) →
        ∃ offset, offset + Text.pairedNewlines (content.take place) = place ∧
          content.uniformNewlines[offset]? = content[place]? ∧
          content.uniformNewlines.take offset = Text.uniformNewlines (content.take place) ∧
          Source.position content.uniformNewlines offset = .ok (content.writtenPosition place) := by
  refine ⟨fun files path bytes hbytes hdecode =>
    FileSystem.readText_eq_ok_iff.mpr ⟨bytes, content, hbytes, hdecode, rfl⟩, fun place hplace hline => ?_⟩
  obtain ⟨c, rest, hdrop, hreturn, hfeed⟩ := Text.exists_cut_of_not_lineEnd hplace hline
  have hcut : ∀ tail, content.drop place ≠ '\n' :: tail := by
    intro tail h
    rw [hdrop] at h
    exact hfeed (List.cons.inj h).1
  have huniform := Text.uniformNewlines_append hcut (content.take place)
  rw [List.take_append_drop, hdrop, Text.uniformNewlines_cons (fun _ h => absurd h hreturn),
    if_neg hreturn] at huniform
  have hlength := Text.length_uniformNewlines (content.take place)
  rw [List.length_take_of_le (Nat.le_of_lt hplace)] at hlength
  refine ⟨(Text.uniformNewlines (content.take place)).length, hlength, ?_, ?_, ?_⟩
  · rw [huniform, List.getElem?_append_right (Nat.le_refl _), Nat.sub_self, (Text.drop_eq_cons hdrop).1]
    rfl
  · rw [huniform, List.take_left]
  · have hinside : (Text.uniformNewlines (content.take place)).length ≤ content.uniformNewlines.length := by
      rw [huniform, List.length_append]
      omega
    have hhead := Text.length_lineHead_uniformNewlines (content.take place) List.not_mem_nil
      (show 0 + ([] : Text).length = 0 from rfl)
    rw [List.nil_append, List.length_take_of_le (Nat.le_of_lt hplace), Nat.zero_add] at hhead
    have hbefore := Text.lineEndsBefore_eq (Nat.le_of_lt hplace) hcut
    rw [Source.position, Source.clamp, if_neg (by omega), Int.toNat_natCast, Nat.min_eq_left hinside]
    simp only [Except.map, Source.positionAt, Text.writtenPosition, hbefore]
    rw [huniform, List.take_left, Text.count_uniformNewlines _ 0]
    congr 2
    · omega
    · omega

/-- The last character of a file in which line ends of all kinds stand side by side. -/
theorem position_uniformNewlines_mixed :
    let content : Text := "a\r\r\n\n\rb\r\ncd"
    let files : FileSystem := ⟨.directory [("a.html", .file (Utf8.encode content))], ⟨"/", []⟩⟩
    content.lineEnds = [⟨1, 2⟩, ⟨2, 4⟩, ⟨4, 5⟩, ⟨5, 6⟩, ⟨7, 9⟩] ∧
      files.readText ⟨[], ["a.html"]⟩ = .ok "a\n\n\n\nb\ncd" ∧ content[10]? = some 'd' ∧
      Source.position "a\n\n\n\nb\ncd" 8 = .ok ⟨6, 2⟩ := by
  intro content files
  obtain ⟨hread, hposition⟩ := position_uniformNewlines content
  have hbytes : files.readBytes ⟨[], ["a.html"]⟩ = .ok (Utf8.encode content) := rfl
  have hdecode : Utf8.decode (Utf8.encode "a\r\r\n\n\rb\r\ncd") = .ok "a\r\r\n\n\rb\r\ncd" := by decide +kernel
  obtain ⟨offset, hoffset, _, _, hplace⟩ := hposition 10 (by decide) (by decide)
  have hpairs : Text.pairedNewlines (content.take 10) = 2 := by decide
  obtain rfl : offset = 8 := by omega
  exact ⟨by decide, hread files _ _ hbytes hdecode, by decide, hplace⟩

end TemplateAudit
