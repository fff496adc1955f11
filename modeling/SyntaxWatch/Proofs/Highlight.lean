import Mathlib.Data.List.DropRight
import SyntaxWatch.Proofs.Text.Line

/-!
# Where a line is highlighted

The highlight of a line starts behind its indentation, which is made of spaces and tabs, and it is
as long as the line without the blanks at both its ends. There are more blanks than these two, so a
line is taken apart into four pieces (`Text.exists_tail`): the indentation, the further blanks in
front (`Text.overlooked`), the trimmed line and the blanks at its end. The overlooked blanks are
left out of the length but not of the place.

## Main results

* `Text.lookups_exact`: which lines are found, and where. A highlight stays inside its line, and the
  highlights of two lines stand in the order of the lines.
* `Text.highlight_trimmed_iff`: the highlight is the place of the trimmed line, moved to the front
  by the overlooked blanks. So it is the trimmed line exactly when there are none.
* `Text.overlooked_blanks_displace`: two lines for which it is not.
-/

namespace SyntaxWatch.Text

variable {text content : Text} {above below : List Text} {line : Nat}

/-! ### The pieces of a line -/

/-- The blanks in front of a line that are not counted to its indentation: those from the first one
that is neither a space nor a tab. -/
def overlooked (content : Text) : Text :=
  (content.dropWhile isIndent).takeWhile isBlank

/-- An indent is made of spaces and tabs. -/
theorem isIndent_iff {c : Char} : isIndent c = true ↔ c = ' ' ∨ c = '\t' := by
  simp [isIndent]

/-- Spaces and tabs are blank. -/
theorem isBlank_of_isIndent {c : Char} (h : isIndent c = true) : isBlank c = true := by
  rcases isIndent_iff.1 h with rfl | rfl <;> rfl

/-- The indent of a line is made of spaces and tabs only. -/
theorem isIndent_of_mem_takeWhile {c : Char} (h : c ∈ content.takeWhile isIndent) :
    isIndent c = true :=
  List.mem_takeWhile_imp h

/-- Spaces and tabs take one byte each. -/
theorem bytes_indent (content : Text) :
    bytes (content.takeWhile isIndent) = (content.takeWhile isIndent).length := by
  have single : ∀ indent : Text, (∀ c ∈ indent, isIndent c = true) →
      bytes indent = indent.length := by
    intro indent
    induction indent with
    | nil => simp
    | cons c indent ih =>
        intro all
        obtain ⟨first, rest⟩ := List.forall_mem_cons.1 all
        have size : c.utf8Size = 1 := by rcases isIndent_iff.1 first with rfl | rfl <;> rfl
        rw [bytes_cons, size, ih rest, List.length_cons, Nat.add_comm]
  exact single _ fun _ => isIndent_of_mem_takeWhile

/-- Behind the indentation, the trimmed line begins where the overlooked blanks end. -/
theorem trimStart_eq (content : Text) :
    trimStart content = (content.dropWhile isIndent).dropWhile isBlank := by
  conv_lhs => rw [trimStart, ← List.takeWhile_append_dropWhile (p := isIndent) (l := content)]
  exact List.dropWhile_append_of_pos fun _ h => isBlank_of_isIndent (isIndent_of_mem_takeWhile h)

/-- Trimming both ends takes no more from the front than trimming the front does. -/
theorem trim_prefix_trimStart (content : Text) : content.trim <+: trimStart content :=
  List.rdropWhile_prefix isBlank _

/-- A line is its indentation, the overlooked blanks, the trimmed line and what is behind it. -/
theorem exists_tail (content : Text) :
    ∃ tail, content = content.takeWhile isIndent ++ overlooked content ++ content.trim ++ tail := by
  obtain ⟨tail, ended⟩ := trim_prefix_trimStart content
  refine ⟨tail, ?_⟩
  rw [List.append_assoc, ended, trimStart_eq, overlooked, List.append_assoc,
    List.takeWhile_append_dropWhile, List.takeWhile_append_dropWhile]

/-- A trimmed line does not begin with a blank. -/
theorem isBlank_of_trim_eq_cons {c : Char} {more : Text} (h : content.trim = c :: more) :
    isBlank c = false := by
  obtain ⟨tail, ended⟩ := trim_prefix_trimStart content
  have first := List.head?_dropWhile_not isBlank content
  rw [← trimStart, ← ended, h] at first
  exact first

/-- Nothing is left of a line of blanks, and of no other line. -/
theorem trim_eq_nil_iff : content.trim = [] ↔ ∀ c ∈ content, isBlank c = true := by
  have ended : content.trim = (content.dropWhile isBlank).rdropWhile isBlank := rfl
  rw [ended, List.rdropWhile_eq_nil_iff]
  constructor
  · intro all c mem
    rw [← List.takeWhile_append_dropWhile (p := isBlank) (l := content), List.mem_append] at mem
    exact mem.elim List.mem_takeWhile_imp (all c)
  · intro all c mem
    exact all c (List.dropWhile_subset isBlank mem)

/-- No blank is overlooked when all those in front are spaces and tabs. -/
theorem overlooked_eq_nil_iff :
    overlooked content = [] ↔ ∀ c ∈ content.takeWhile isBlank, isIndent c = true := by
  have front : content.takeWhile isBlank = content.takeWhile isIndent ++ overlooked content := by
    conv_lhs => rw [← List.takeWhile_append_dropWhile (p := isIndent) (l := content)]
    exact List.takeWhile_append_of_pos fun _ h => isBlank_of_isIndent (isIndent_of_mem_takeWhile h)
  rw [front]
  constructor
  · intro none c mem
    rw [none, List.append_nil] at mem
    exact isIndent_of_mem_takeWhile mem
  · intro all
    have first := List.head?_dropWhile_not isIndent content
    cases behind : overlooked content with
    | nil => rfl
    | cons c more =>
        obtain ⟨rest, split⟩ : overlooked content <+: content.dropWhile isIndent :=
          List.takeWhile_prefix isBlank
        rw [← split, behind] at first
        have passed : isIndent c = false := first
        rw [all c (by simp [behind])] at passed
        cases passed

/-! ### The place of a highlight -/

/-- The highlight of a line below some others. -/
def lineSpan (above : List Text) (content : Text) : Span where
  start := bytes (ended above ++ content.takeWhile isIndent)
  stop := bytes (ended above ++ content.takeWhile isIndent) + bytes content.trim

/-- The highlight of a line that is there is the span of its content. -/
theorem highlight_of_lines (h : text.lines = above ++ content :: below) :
    text.highlight (above.length + 1) = .ok (lineSpan above content) := by
  have member : content ∈ text.lines := by simp [h]
  have whole : '\n' ∉ content := newline_notMem_of_mem_lines member
  have line : (content ++ begun below).takeWhile (· ≠ '\n') = content := by
    cases below with
    | nil => simpa using Search.takeWhile_of_notMem whole
    | cons next below =>
        rw [begun_cons, Search.takeWhile_append_cons_self, Search.takeWhile_of_notMem whole]
  rw [highlight, seekLine_of_lines h]
  show Except.ok _ = _
  simp only [line, lineSpan, bytes_append, bytes_indent]

/-- A line that cannot be sought is not highlighted, for the same reason. -/
theorem highlight_of_error {fault : LineError} (h : seekLine text line = .error fault) :
    text.highlight line = .error fault := by
  rw [highlight, h]
  rfl

/-- A highlight starts behind the lines above and the indentation, and is as long as the trimmed
line. -/
theorem highlight_eq_ok_iff {span : Span} :
    text.highlight line = .ok span ↔
      ∃ above content below, text.lines = above ++ content :: below ∧ line = above.length + 1 ∧
        span = lineSpan above content := by
  constructor
  · intro h
    rcases lines_or_fault text line with ⟨above, content, below, split, rfl⟩ | ⟨fault, failed⟩
    · rw [highlight_of_lines split] at h
      exact ⟨above, content, below, split, rfl, (Except.ok.inj h).symm⟩
    · rw [highlight_of_error failed] at h
      cases h
  · rintro ⟨above, content, below, split, rfl, rfl⟩
    exact highlight_of_lines split

/-- A line has a highlight exactly when its number is one of the text. -/
theorem exists_highlight_iff :
    (∃ span, text.highlight line = .ok span) ↔ 1 ≤ line ∧ line ≤ text.lineCount := by
  rw [← exists_lines_iff]
  constructor
  · rintro ⟨span, found⟩
    obtain ⟨above, content, below, split, number, -⟩ := highlight_eq_ok_iff.1 found
    exact ⟨above, content, below, split, number⟩
  · rintro ⟨above, content, below, split, rfl⟩
    exact ⟨_, highlight_of_lines split⟩

/-- A text is put together around the pieces of each of its lines. -/
theorem exists_rest (h : text.lines = above ++ content :: below) :
    ∃ rest, text = ended above ++ content.takeWhile isIndent ++ overlooked content ++
      content.trim ++ rest := by
  obtain ⟨tail, pieces⟩ := exists_tail content
  refine ⟨tail ++ begun below, ?_⟩
  conv_lhs => rw [eq_of_lines h, pieces]
  simp only [List.append_assoc]

/-- A line is where it was found: it is the one of its number, it starts behind the lines above it
and their newlines, and its highlight lies inside it, behind spaces and tabs. -/
structure Located (text : Text) (line : Nat) (content : Text) (offset : Nat) (span : Span) :
    Prop where
  numbered : text.lines[line - 1]? = some content
  behind : offset = bytes (ended (text.lines.take (line - 1)))
  there : text.slice? offset (offset + bytes content) = some content
  starts : offset ≤ span.start
  ordered : span.start ≤ span.stop
  stops : span.stop ≤ offset + bytes content
  indented : ∃ indent, text.slice? offset span.start = some indent ∧
    ∀ c ∈ indent, c = ' ' ∨ c = '\t'

/-- The highlight of a line that is there lies where its content does. -/
theorem located_of_lines (h : text.lines = above ++ content :: below) :
    Located text (above.length + 1) content (bytes (ended above)) (lineSpan above content) where
  numbered := by simp [h]
  behind := by simp [h]
  there := slice?_eq_some_iff.2 ⟨ended above, begun below, eq_of_lines h, rfl, bytes_append _ _⟩
  starts := by simp [lineSpan]
  ordered := Nat.le_add_right _ _
  stops := by
    obtain ⟨tail, pieces⟩ := exists_tail content
    have length := congrArg bytes pieces
    simp only [bytes_append] at length
    simp only [lineSpan, bytes_append]
    omega
  indented := by
    obtain ⟨rest, whole⟩ := exists_rest h
    refine ⟨content.takeWhile isIndent, slice?_eq_some_iff.2 ⟨ended above,
      overlooked content ++ content.trim ++ rest, ?_, rfl, rfl⟩, fun c mem =>
        isIndent_iff.1 (isIndent_of_mem_takeWhile mem)⟩
    simpa only [List.append_assoc] using whole

/-- A line further down starts behind every line above it. -/
theorem bytes_ended_lt {above' below' : List Text} {content' : Text}
    (h : text.lines = above ++ content :: below) (h' : text.lines = above' ++ content' :: below')
    (lt : above.length < above'.length) :
    bytes (ended above) + bytes content < bytes (ended above') := by
  have first : above ++ [content] <+: text.lines := ⟨below, by simp [h]⟩
  have second : above' <+: text.lines := ⟨content' :: below', h'.symm⟩
  have shorter : (above ++ [content]).length ≤ above'.length := by
    rw [List.length_append, List.length_singleton]
    exact lt
  obtain ⟨between, rfl⟩ := List.prefix_of_prefix_length_le first second shorter
  have newline : Char.utf8Size '\n' = 1 := rfl
  simp only [ended_append, ended_cons, ended_nil, bytes_append, bytes_cons, newline]
  omega

/-- **Looking up lines is exact.** A line is found exactly when its number is that of a line of the
text, and otherwise the fault says why not. What is found is the line of that number, the length of
a highlight is well defined, and the highlights of two lines do not overlap and stand in the order
of the lines. -/
theorem lookups_exact (text : Text) :
    (∀ line, ((∃ offset, text.lineStart line = .ok offset) ↔ 1 ≤ line ∧ line ≤ text.lineCount) ∧
        ((∃ span, text.highlight line = .ok span) ↔ 1 ≤ line ∧ line ≤ text.lineCount)) ∧
      (text.lineStart 0 = .error .zero ∧ text.highlight 0 = .error .zero) ∧
      (∀ line, text.lineCount < line →
        text.lineStart line = .error (.outOfRange line text.lineCount) ∧
          text.highlight line = .error (.outOfRange line text.lineCount)) ∧
      (∀ line offset span, text.lineStart line = .ok offset → text.highlight line = .ok span →
        (∃ content, Located text line content offset span) ∧
          span.length? = some (span.stop - span.start)) ∧
      ∀ line line' span span', line < line' → text.highlight line = .ok span →
        text.highlight line' = .ok span' → span.stop < span'.start := by
  refine ⟨fun line => ⟨exists_lineStart_iff, exists_highlight_iff⟩, ?_, fun line past => ?_, ?_, ?_⟩
  · exact ⟨lineStart_of_error (seekLine_zero text), highlight_of_error (seekLine_zero text)⟩
  · have failed := seekLine_of_lineCount_lt past
    exact ⟨lineStart_of_error failed, highlight_of_error failed⟩
  · intro line offset span start highlight
    obtain ⟨above, content, below, split, rfl, rfl⟩ := highlight_eq_ok_iff.1 highlight
    rw [lineStart_of_lines split] at start
    obtain rfl := Except.ok.inj start
    have located := located_of_lines split
    exact ⟨⟨content, located⟩, if_pos located.ordered⟩
  · intro line line' span span' lt highlight highlight'
    obtain ⟨above, content, below, split, rfl, rfl⟩ := highlight_eq_ok_iff.1 highlight
    obtain ⟨above', content', below', split', rfl, rfl⟩ := highlight_eq_ok_iff.1 highlight'
    calc (lineSpan above content).stop
        ≤ bytes (ended above) + bytes content := (located_of_lines split).stops
      _ < bytes (ended above') := bytes_ended_lt split split' (by omega)
      _ ≤ (lineSpan above' content').start := (located_of_lines split').starts

/-! ### Highlights and trimmed lines -/

/-- The trimmed line stands behind the highlight by the bytes of the overlooked blanks. -/
theorem slice?_behind_lineSpan (h : text.lines = above ++ content :: below) :
    text.slice? ((lineSpan above content).start + bytes (overlooked content))
      ((lineSpan above content).stop + bytes (overlooked content)) = some content.trim := by
  obtain ⟨rest, whole⟩ := exists_rest h
  refine slice?_eq_some_iff.2 ⟨_, rest, whole, bytes_append _ _, ?_⟩
  simp only [lineSpan, bytes_append]
  omega

/-- A highlight with overlooked blanks begins with one of them, so it is not a trimmed line. -/
theorem slice?_lineSpan_ne (h : text.lines = above ++ content :: below) (left : content.trim ≠ [])
    (blanks : overlooked content ≠ []) :
    text.slice? (lineSpan above content).start (lineSpan above content).stop ≠
      some content.trim := by
  intro inside
  obtain ⟨before, after, whole, length, -⟩ := slice?_eq_some_iff.1 inside
  obtain ⟨rest, pieces⟩ := exists_rest h
  obtain ⟨c, more, front⟩ := List.exists_cons_of_ne_nil left
  obtain ⟨b, others, blank⟩ := List.exists_cons_of_ne_nil blanks
  rw [List.append_assoc] at whole
  rw [List.append_assoc, List.append_assoc _ (overlooked content)] at pieces
  -- The front of that length is the one behind which the overlooked blanks stand.
  obtain rfl : before = ended above ++ content.takeWhile isIndent :=
    eq_of_bytes_eq ⟨_, whole.symm⟩ ⟨_, pieces.symm⟩ length
  have same := List.append_cancel_left (whole.symm.trans pieces)
  rw [front, blank] at same
  obtain ⟨rfl, -⟩ := List.cons_eq_cons.1 same
  have first : c ∈ overlooked content := blank ▸ List.mem_cons_self
  have passed : isBlank c = true := List.mem_takeWhile_imp first
  rw [isBlank_of_trim_eq_cons front] at passed
  cases passed

/-- **Which highlights are trimmed lines.** Behind the blanks that are overlooked, the bytes of a
highlight are those of the trimmed line. The highlight of a blank line is empty. The highlight of
any other line lies between characters and is the trimmed line exactly when all blanks in front of
the line are spaces and tabs. -/
theorem highlight_trimmed_iff (text : Text) {line : Nat} (first : 1 ≤ line)
    (last : line ≤ text.lineCount) :
    ∃ content span, text.lines[line - 1]? = some content ∧ text.highlight line = .ok span ∧
      text.slice? (span.start + bytes (overlooked content))
        (span.stop + bytes (overlooked content)) = some content.trim ∧
      ((∀ c ∈ content, isBlank c = true) → span.isEmpty = true) ∧
      ((∃ c ∈ content, isBlank c = false) →
        ((text.IsBoundary span.start ∧ text.IsBoundary span.stop ∧
            text.slice? span.start span.stop = some content.trim) ↔
          ∀ c ∈ content.takeWhile isBlank, isIndent c = true)) := by
  obtain ⟨above, content, below, split, rfl⟩ := exists_lines_iff.2 ⟨first, last⟩
  have behind := slice?_behind_lineSpan split
  refine ⟨content, lineSpan above content, (located_of_lines split).numbered,
    highlight_of_lines split, behind, fun blank => ?_, fun ⟨c, mem, other⟩ => ?_⟩
  · simp [Span.isEmpty, lineSpan, trim_eq_nil_iff.2 blank]
  · rw [← overlooked_eq_nil_iff]
    constructor
    · rintro ⟨-, -, inside⟩
      by_contra blanks
      refine slice?_lineSpan_ne split (fun none => ?_) blanks inside
      rw [trim_eq_nil_iff.1 none c mem] at other
      cases other
    · intro none
      rw [none, bytes_nil, Nat.add_zero, Nat.add_zero] at behind
      obtain ⟨start, stop⟩ := isBoundary_of_slice? behind
      exact ⟨start, stop, behind⟩

/-- Behind a tab and a space, a highlight leaves out the blanks at the end of its line. -/
theorem highlight_trimmed_padded :
    let text : Text := "x;\n\t é 1;\u00a0\r\n".toList
    1 ≤ 2 ∧ 2 ≤ text.lineCount ∧ ∃ span, text.highlight 2 = .ok span ∧
      text.slice? span.start span.stop = some "é 1;".toList := by
  intro text
  have last : 2 ≤ text.lineCount := by decide
  obtain ⟨content, span, numbered, found, -, -, trimmed⟩ :=
    highlight_trimmed_iff text (by decide) last
  have line : text.lines[2 - 1]? = some "\t é 1;\u00a0\r".toList := rfl
  obtain rfl := Option.some.inj (numbered.symm.trans line)
  have indented := (trimmed ⟨'é', by decide, by decide⟩).2 (List.all_eq_true.1 (by decide))
  exact ⟨by decide, last, span, found, indented.2.2⟩

/-- A form feed in front of a line is highlighted in place of its last character, and a no-break
space, which takes two bytes, is cut through. -/
theorem overlooked_blanks_displace :
    let feed : Text := "\x0cx".toList
    let wide : Text := "\u00a0x".toList
    (feed.lines = [feed] ∧ feed.trim = ['x'] ∧ feed.highlight 1 = .ok ⟨0, 1⟩ ∧
        feed.slice? 0 1 = some ['\x0c']) ∧
      wide.lines = [wide] ∧ wide.trim = ['x'] ∧ wide.highlight 1 = .ok ⟨0, 1⟩ ∧
        ¬ wide.IsBoundary 1 ∧ wide.slice? 0 1 = none := by
  intro feed wide
  have inside : ¬ wide.IsBoundary 1 := by
    rw [← isSome_cut?_iff]
    decide
  exact ⟨by decide, by decide, by decide, by decide, inside, by decide⟩

end SyntaxWatch.Text
