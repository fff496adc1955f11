import SyntaxWatch.Editor.Notice
import SyntaxWatch.Proofs.Editor.Position
import SyntaxWatch.Proofs.Highlight
import SyntaxWatch.Proofs.Reconciliation.Holder

/-!
# Where a diagnostic is underlined

The checker names a line, the diagnostic carries bytes of the text, and the editor is told lines and
columns. The three agree on the line (`Notice.Underlined`): a highlight that falls between
characters becomes columns of its line, counted from the start of the line, and every other
diagnostic is underlined from the start of its line to the start of the next one.

## Main results

* `Notice.underlined_highlight`, `Notice.underlined_whole`: the two cases.
* `Notice.underlined_of_diagnosed`: every diagnostic of a run is underlined like that.
-/

namespace SyntaxWatch.Notice

open Text (bytes units)

variable {text : Text} {d : Diagnostic} {span : Span}

/-- From one position to another, a diagnostic of a text is underlined on its line. -/
structure Underlined (text : Text) (d : Diagnostic) (start stop : Position) : Prop where
  on_line : start.line = d.line - 1
  ordered : start ≤ stop
  ends : stop.line = d.line - 1 ∨ stop = ⟨d.line, 0⟩
  /-- Between characters, the columns count the code units from the start of the line. -/
  columns : ∀ span, d.span = some span → text.IsBoundary span.start → text.IsBoundary span.stop →
    ∃ offset front inside, text.lineStart d.line = .ok offset ∧
      text.slice? offset span.start = some front ∧ text.slice? offset span.stop = some inside ∧
      start = ⟨d.line - 1, units front⟩ ∧ stop = ⟨d.line - 1, units inside⟩
  /-- Without a highlight between characters, the whole line is underlined. -/
  whole : (∀ span, d.span = some span →
      ¬ (text.IsBoundary span.start ∧ text.IsBoundary span.stop)) →
    start = ⟨d.line - 1, 0⟩ ∧ stop = ⟨d.line, 0⟩

/-- The whole line of a number that an editor can be told. -/
theorem wholeLine_eq {line : Nat} (first : 1 ≤ line) (last : line ≤ Position.limit) :
    wholeLine line = (⟨line - 1, 0⟩, ⟨line, 0⟩) := by
  have start : min (line - 1) Position.limit = line - 1 := by omega
  have stop : min (line - 1 + 1) Position.limit = line := by omega
  rw [wholeLine, start, stop]

/-- A highlight between characters becomes columns. -/
theorem underlined_highlight (small : bytes text ≤ Position.limit) (lit : d.span = some span)
    (found : text.highlight d.line = .ok span) (start : text.IsBoundary span.start)
    (stop : text.IsBoundary span.stop) :
    Underlined text d (ofDiagnostic text d).start (ofDiagnostic text d).stop := by
  obtain ⟨above, content, below, split, number, rfl⟩ := Text.highlight_eq_ok_iff.1 found
  have located := Text.located_of_lines split
  obtain ⟨front, leads, length, first, place⟩ := Text.position?_inside small split start
    located.starts (located.ordered.trans located.stops)
  obtain ⟨inside, leads', length', last, place'⟩ := Text.position?_inside small split stop
    (located.starts.trans located.ordered) located.stops
  have within : front <+: inside := by
    have ordered := located.ordered
    exact Text.prefix_of_bytes_le leads leads' (by omega)
  have spanned : range text d = (⟨above.length, units front⟩, ⟨above.length, units inside⟩) := by
    rw [range, lit, Option.bind_some, spanRange?, place, place']
    rfl
  have line : above.length = d.line - 1 := by omega
  rw [ofDiagnostic, spanned, line]
  refine ⟨rfl, Position.le_iff.2 (.inr ⟨rfl, Text.units_le_units within⟩), .inl rfl, ?_, ?_⟩
  · intro span' lit' _ _
    obtain rfl := Option.some.inj (lit.symm.trans lit')
    rw [number]
    exact ⟨_, front, inside, Text.lineStart_of_lines split, first, last, rfl, rfl⟩
  · intro other
    exact absurd ⟨start, stop⟩ (other _ lit)

/-- Without a highlight between characters, the whole line is underlined. -/
theorem underlined_whole (first : 1 ≤ d.line) (last : d.line ≤ Position.limit)
    (other : ∀ span, d.span = some span →
      ¬ (text.IsBoundary span.start ∧ text.IsBoundary span.stop)) :
    Underlined text d (ofDiagnostic text d).start (ofDiagnostic text d).stop := by
  have unspanned : d.span.bind (spanRange? text) = none := by
    cases lit : d.span with
    | none => rfl
    | some span =>
        rw [Option.bind_some, spanRange?]
        rcases not_and_or.1 (other span lit) with inside | inside
        · rw [Text.position?_eq_none inside]
          rfl
        · rw [Text.position?_eq_none inside]
          cases text.position? span.start <;> rfl
  have all : range text d = (⟨d.line - 1, 0⟩, ⟨d.line, 0⟩) := by
    rw [range, unspanned, Option.getD_none, wholeLine_eq first last]
  rw [ofDiagnostic, all]
  refine ⟨rfl, Position.le_iff.2 (.inl ?_), .inr rfl, ?_, fun _ => ⟨rfl, rfl⟩⟩
  · show d.line - 1 < d.line
    omega
  · intro span lit start stop
    exact absurd ⟨start, stop⟩ (other span lit)

/-- What is highlighted in a run of the checker is the line of its diagnostic. -/
theorem highlight_of_diagnosed {transcript : Transcript} {cap : Nat}
    (mem : d ∈ transcript.diagnose text cap) (lit : d.span = some span) :
    text.highlight d.line = .ok span :=
  Diagnostic.span?_eq_some_iff.1 ((Diagnostic.lit_reconcile text _).sound d mem span lit)

/-- **Bytes and positions agree on the line.** Every diagnostic of a run of the checker is
underlined on its line: as the columns of its highlight when that falls between characters, and
otherwise from the start of the line to the start of the next one. -/
theorem underlined_of_diagnosed (transcript : Transcript) (text : Text) (cap : Nat) (d : Diagnostic)
    (small : bytes text ≤ Position.limit) (mem : d ∈ transcript.diagnose text cap)
    (first : 1 ≤ d.line) (last : d.line ≤ Position.limit) :
    Underlined text d (ofDiagnostic text d).start (ofDiagnostic text d).stop := by
  by_cases between : ∃ span, d.span = some span ∧ text.IsBoundary span.start ∧
      text.IsBoundary span.stop
  · obtain ⟨span, lit, start, stop⟩ := between
    exact underlined_highlight small lit (highlight_of_diagnosed mem lit) start stop
  · exact underlined_whole first last fun span lit boundaries => between ⟨span, lit, boundaries⟩

/-- The second line is complained about, which is indented and has characters of two and four
bytes. -/
theorem underlined_of_diagnosed_wide :
    let text : Text := "my $x;\n\t\"é😀\";\n".toList
    let transcript : Transcript :=
      { output := "syntax error at /tmp/a.pl line 2.\n".toList, input := "/tmp/a.pl".toList }
    ∃ d ∈ transcript.diagnose text 10,
      bytes text ≤ Position.limit ∧ 1 ≤ d.line ∧ d.line ≤ Position.limit ∧
      d.span = some ⟨8, 17⟩ ∧ (ofDiagnostic text d).start = ⟨1, 1⟩ ∧
      (ofDiagnostic text d).stop = ⟨1, 7⟩ := by
  intro text transcript
  have small : bytes text ≤ Position.limit := by decide
  let d : Diagnostic :=
    { line := 2, message := "syntax error at line 2.".toList, severity := .error,
      span := some ⟨8, 17⟩ }
  have mem : d ∈ transcript.diagnose text 10 := by decide
  have first : 1 ≤ d.line := by decide
  have last : d.line ≤ Position.limit := by decide
  have start : text.IsBoundary 8 := Text.isSome_cut?_iff.1 (by decide)
  have stop : text.IsBoundary 17 := Text.isSome_cut?_iff.1 (by decide)
  obtain ⟨offset, front, inside, found, before, within, left, right⟩ :=
    (underlined_of_diagnosed transcript text 10 d small mem first last).columns _ rfl start stop
  obtain rfl : 7 = offset := Except.ok.inj (Eq.trans (by decide) found)
  obtain rfl := Option.some.inj (Eq.trans (by decide : some ['\t'] = _) before)
  obtain rfl := Option.some.inj (Eq.trans (by decide : some "\t\"é😀\";".toList = _) within)
  exact ⟨d, mem, small, first, last, rfl, left, right⟩

end SyntaxWatch.Notice
