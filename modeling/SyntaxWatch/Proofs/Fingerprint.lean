import SyntaxWatch.Cycle.Basic
import SyntaxWatch.Proofs.Text.Replacement

/-!
# Outputs without the path of their input

The path of the scratch file is different in every run, so two outputs are compared by their
fingerprints, in which a placeholder stands for the path. This module says when that comparison is
fair: a transcript is tidy (`Transcript.Tidy`) when its path can be told from the rest of its
output, and the complaints of a tidy transcript can be read off its fingerprint alone
(`findings_bare`). Two tidy transcripts with the same fingerprint make the same complaints
(`findings_eq_of_fingerprint_eq`).

What makes a transcript tidy is what the reading of complaints takes for granted. The path is left
out of a message only where a space follows it, and it is not left out of the line that continues
a message; and a placeholder that the checker wrote itself cannot be told from one that stands for
the path.
-/

namespace SyntaxWatch

/-- A line of an output in which the path of the input can be told from the rest: it is followed by
a space wherever it occurs, it does not occur where a message is continued, and its placeholder
does not occur at all. -/
structure TidyLine (input line : Text) : Prop where
  unmarked : ¬ Transcript.placeholder <:+: line
  spaced : ∀ before after, line = before ++ input ++ after → after.head? = some ' '
  leading : Finding.isContinuation line = true → ¬ input <:+: line

/-- A transcript whose path can be told from the rest of its output, and is the path of a file: it
is not empty, does not begin with a blank, and has no line break in it. -/
structure Transcript.Tidy (t : Transcript) : Prop where
  named : t.input ≠ []
  unbroken : '\n' ∉ t.input
  uncut : '\r' ∉ t.input
  flush : Finding.isContinuation t.input = false
  lines : ∀ line ∈ t.output.lines, TidyLine t.input line

namespace Transcript

/-- The fingerprint of a transcript as a transcript of its own. -/
def bare (t : Transcript) : Transcript :=
  { output := t.fingerprint, input := placeholder }

/-- The placeholder without its first character, which does not recur in it. -/
def placeholderRest : Text := "input>".toList

/-- The placeholder starts with an angle bracket. -/
theorem placeholder_eq : placeholder = '<' :: placeholderRest := rfl

/-- The angle bracket that starts the placeholder does not come again in it. -/
theorem notMem_placeholderRest : '<' ∉ placeholderRest := by decide

/-- The placeholder stands on one line. -/
theorem newline_notMem_placeholder : '\n' ∉ placeholder := by decide

/-- The placeholder cuts no line short. -/
theorem return_notMem_placeholder : '\r' ∉ placeholder := by decide

end Transcript

/-! ### Tidiness can be decided -/

/-- Where a path occurs in a line, counted from the front. -/
theorem TidyLine.spaced_iff {input line : Text} :
    (∀ before after, line = before ++ input ++ after → after.head? = some ' ') ↔
      ∀ i < line.length + 1, input <+: line.drop i →
        (line.drop (i + input.length)).head? = some ' ' := by
  constructor
  · rintro spaced i - ⟨after, found⟩
    have parts : line = line.take i ++ input ++ after := by
      rw [List.append_assoc, found, List.take_append_drop]
    rw [← List.drop_drop, ← found, List.drop_left]
    exact spaced _ after parts
  · rintro spaced before after rfl
    have at_ := spaced before.length (by simp only [List.length_append]; omega)
      (by rw [List.append_assoc, List.drop_left]; exact List.prefix_append _ _)
    rwa [← List.length_append, List.drop_left] at at_

instance (input line : Text) : Decidable (TidyLine input line) :=
  decidable_of_iff (¬ Transcript.placeholder <:+: line ∧
    (∀ i < line.length + 1, input <+: line.drop i →
      (line.drop (i + input.length)).head? = some ' ') ∧
    (Finding.isContinuation line = true → ¬ input <:+: line))
    ⟨fun h => ⟨h.1, TidyLine.spaced_iff.2 h.2.1, h.2.2⟩,
      fun h => ⟨h.unmarked, TidyLine.spaced_iff.1 h.spaced, h.leading⟩⟩

instance (t : Transcript) : Decidable t.Tidy :=
  decidable_of_iff (t.input ≠ [] ∧ '\n' ∉ t.input ∧ '\r' ∉ t.input ∧
    Finding.isContinuation t.input = false ∧ ∀ line ∈ t.output.lines, TidyLine t.input line)
    ⟨fun h => ⟨h.1, h.2.1, h.2.2.1, h.2.2.2.1, h.2.2.2.2⟩,
      fun h => ⟨h.named, h.unbroken, h.uncut, h.flush, h.lines⟩⟩

/-! ### Single lines -/

/-- A line is cut at a carriage return, or not at all. -/
theorem Transcript.beforeReturn_cases (line : Text) :
    beforeReturn line = line ∨ ∃ back, line = beforeReturn line ++ '\r' :: back := by
  induction line with
  | nil => exact .inl rfl
  | cons c rest ih =>
      by_cases hc : c = '\r'
      · exact .inr ⟨rest, by simp [beforeReturn, hc]⟩
      · have front : beforeReturn (c :: rest) = c :: beforeReturn rest := by
          simp [beforeReturn, hc]
        rw [front]
        rcases ih with whole | ⟨back, cut⟩
        · exact .inl (by rw [whole])
        · exact .inr ⟨back, by rw [List.cons_append, ← cut]⟩

namespace TidyLine

variable {input line : Text}

/-- What stands before the first carriage return of a tidy line is tidy. -/
theorem beforeReturn (h : TidyLine input line) : TidyLine input (Transcript.beforeReturn line) := by
  rcases Transcript.beforeReturn_cases line with whole | ⟨back, cut⟩
  · rw [whole]
    exact h
  · have front : Transcript.beforeReturn line <:+: line := (List.takeWhile_prefix _).isInfix
    refine ⟨fun inside => h.unmarked (inside.trans front), fun before after hline => ?_,
      fun blank inside => h.leading ?_ (inside.trans front)⟩
    · -- An occurrence that ends where the line is cut would have the cut behind it, and no space.
      have spaced := h.spaced before (after ++ '\r' :: back)
        (by rw [← List.append_assoc, ← hline, ← cut])
      cases after with
      | nil => simp at spaced
      | cons c after => simpa using spaced
    · rw [cut]
      generalize Transcript.beforeReturn line = kept at blank
      cases kept with
      | nil => cases blank
      | cons c kept => exact blank

end TidyLine

namespace Finding

variable {input line : Text}

/-- Whether a line continues a message does not depend on what stands for the path. -/
theorem isContinuation_replace (named : input ≠ []) (flush : isContinuation input = false) :
    isContinuation (Search.replace input Transcript.placeholder line) = isContinuation line := by
  induction line using Search.scan named with
  | nil => rw [Search.replace_nil]
  | found rest ih =>
      obtain ⟨c, more, rfl⟩ := List.exists_cons_of_ne_nil named
      rw [Search.replace_append_found named, Transcript.placeholder_eq]
      exact flush.symm
  | other c rest front ih => rw [Search.replace_cons_of_absent front]; rfl

/-- The complaint on a tidy line can be read with the placeholder in place of the path. -/
theorem ofLine?_replace (h : TidyLine input line) (named : input ≠ [])
    (flush : isContinuation input = false) (continuation : Option Text) :
    ofLine? Transcript.placeholder (Search.replace input Transcript.placeholder line)
      continuation = ofLine? input line continuation := by
  have front : input.head? ≠ some ' ' := fun hc => by
    cases input with
    | nil => exact named rfl
    | cons c more => cases hc; cases flush
  have stripped := Search.replace_replace named front Transcript.notMem_placeholderRest
    (by decide) h.unmarked h.spaced
  rw [← Transcript.placeholder_eq] at stripped
  rw [ofLine?, ofLine?, Search.occurs_replace named h.unmarked, stripped]
  simp only [named, Transcript.placeholder_eq, List.cons_ne_nil]

/-- The complaints on tidy lines can be read with the placeholder in place of the path. -/
theorem ofLines_replace (named : input ≠ []) (flush : isContinuation input = false)
    {lines : List Text} (h : ∀ line ∈ lines, TidyLine input line) :
    ofLines Transcript.placeholder (lines.map (Search.replace input Transcript.placeholder)) =
      ofLines input lines := by
  induction lines with
  | nil => rfl
  | cons line rest ih =>
      obtain ⟨tidy, tidyRest⟩ := List.forall_mem_cons.1 h
      have next : (rest.map (Search.replace input Transcript.placeholder)).head?.filter
          isContinuation = rest.head?.filter isContinuation := by
        cases rest with
        | nil => rfl
        | cons next rest =>
            have tidyNext := tidyRest next List.mem_cons_self
            rw [List.map_cons, List.head?_cons, List.head?_cons, Option.filter_some,
              Option.filter_some, isContinuation_replace named flush]
            split
            · next blank => rw [Search.replace_of_absent (tidyNext.leading blank)]
            · rfl
      rw [List.map_cons, ofLines, ofLines, next, ofLine?_replace tidy named flush, ih tidyRest]

end Finding

/-! ### Whole outputs -/

namespace Transcript

variable {t : Transcript}

/-- The lines that are looked at do not depend on what stands for the path. -/
theorem keptLines_fingerprint (h : t.Tidy) (cap : Nat) :
    keptLines t.fingerprint cap =
      (keptLines t.output cap).map (Search.replace t.input placeholder) := by
  have some : ∀ line, Search.replace t.input placeholder line = [] ↔ line = [] := by
    intro line
    refine ⟨fun none => ?_, fun none => by rw [none, Search.replace_nil]⟩
    induction line using Search.scan h.named with
    | nil => rfl
    | found rest _ => rw [Search.replace_append_found h.named] at none; cases none
    | other c rest front _ => rw [Search.replace_cons_of_absent front] at none; cases none
  have cut : beforeReturn ∘ Search.replace t.input placeholder =
      Search.replace t.input placeholder ∘ beforeReturn :=
    funext fun line => Search.takeWhile_replace h.named h.uncut return_notMem_placeholder line
  have filled : (fun line : Text => decide (line ≠ [])) ∘ Search.replace t.input placeholder =
      fun line => decide (line ≠ []) :=
    funext fun line => by simp only [Function.comp_apply, ne_eq, some]
  rw [keptLines, keptLines, fingerprint,
    Text.lines_replace h.named h.unbroken newline_notMem_placeholder, List.filter_map, filled,
    List.map_map, cut, ← List.map_map, List.map_take]

/-- **A fingerprint tells the complaints of a tidy transcript.** -/
theorem findings_bare (h : t.Tidy) (cap : Nat) : t.bare.findings cap = t.findings cap := by
  have tidy : ∀ line ∈ keptLines t.output cap, TidyLine t.input line := by
    intro line hline
    obtain ⟨whole, hwhole, rfl⟩ := List.mem_map.1 (List.mem_of_mem_take hline)
    exact (h.lines whole (List.mem_filter.1 hwhole).1).beforeReturn
  rw [findings, findings, bare, keptLines_fingerprint h,
    Finding.ofLines_replace h.named h.flush tidy]

/-- Tidy transcripts with one fingerprint make the same complaints. -/
theorem findings_eq_of_fingerprint_eq {t' : Transcript} (h : t.Tidy) (h' : t'.Tidy)
    (same : t.fingerprint = t'.fingerprint) (cap : Nat) : t.findings cap = t'.findings cap := by
  rw [← findings_bare h, ← findings_bare h', bare, bare, same]

end Transcript

end SyntaxWatch
