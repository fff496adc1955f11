import SyntaxWatch.Proofs.Finding.Grammar
import SyntaxWatch.Proofs.Text.Line

/-!
# Line endings and blank lines

The lines of an output may end in a newline, or in a carriage return and a newline. The carriage
return is cut off every line that is looked at, but only after the empty lines have been sorted out.
A blank line that ends in a carriage return is not empty when that happens, and so it remains: it
counts toward the cap, and it stands between a complaint and the line that continues it.

So in one encoding an output is read with its blank lines and in the other one without them. This
module says for which outputs that makes no difference.

## Main definitions

* `Text.withReturns`, `Text.wholeLines`: a text in the other encoding, and the lines of a text.
* `Finding.Tight`: no complaint depends on the blank lines.

## Main results

* `Finding.ofLines_filter_iff`: when blank lines make no difference, under any cap.
* `Transcript.findings_withReturns_iff`: what is read of an output in either encoding, and for which
  outputs it is the same.
* `Transcript.blank_line_counts`: two outputs for which it is not.
-/

namespace SyntaxWatch

/-! ### Two encodings of lines -/

namespace Text

/-- A text with a carriage return in front of every newline. -/
def withReturns (text : Text) : Text :=
  text.flatMap fun c => if c = '\n' then ['\r', '\n'] else [c]

/-- The lines of a text, each ended by a newline but for the last one. Nothing follows a newline at
the end of the text. -/
def wholeLines (text : Text) : List Text :=
  if text.lines.getLast? = some [] then text.lines.dropLast else text.lines

variable {front back : Text}

/-- A text without a line feed gets no carriage return. -/
theorem withReturns_of_notMem (whole : '\n' ∉ front) : withReturns front = front := by
  induction front with
  | nil => rfl
  | cons c front ih =>
      obtain ⟨other, rest⟩ := not_or.1 (mt List.mem_cons.2 whole)
      rw [withReturns, List.flatMap_cons, if_neg (Ne.symm other)]
      exact congrArg (c :: ·) (ih rest)

/-- A line gets a carriage return at its end, and the lines after it get theirs. -/
theorem withReturns_append_cons (whole : '\n' ∉ front) (back : Text) :
    withReturns (front ++ '\n' :: back) = (front ++ ['\r']) ++ '\n' :: withReturns back := by
  rw [withReturns, List.flatMap_append, ← withReturns, withReturns_of_notMem whole,
    List.flatMap_cons, if_pos rfl, ← withReturns]
  simp

/-- A text without a line feed is one line, or none when it is empty. -/
theorem wholeLines_of_notMem (whole : '\n' ∉ front) :
    wholeLines front = if front = [] then [] else [front] := by
  rw [wholeLines, lines, List.splitOn_eq_singleton whole]
  simp

/-- The lines of a text are its first one and those of what follows. -/
theorem wholeLines_append_cons (whole : '\n' ∉ front) (back : Text) :
    wholeLines (front ++ '\n' :: back) = front :: wholeLines back := by
  have nonempty : lines back ≠ [] := List.splitOn_ne_nil _ _
  obtain ⟨line, rest, split⟩ := List.exists_cons_of_ne_nil nonempty
  rw [wholeLines, wholeLines, lines_append_cons whole, split, List.getLast?_cons_cons]
  split <;> rfl

end Text

namespace Transcript

variable {output : Text}

/-- A line without a carriage return is kept whole. -/
theorem beforeReturn_of_uncut {line : Text} (uncut : '\r' ∉ line) : beforeReturn line = line :=
  Search.takeWhile_of_notMem uncut

/-- With newlines alone, the blank lines of an output are sorted out. -/
theorem keptLines_of_uncut (uncut : '\r' ∉ output) (cap : Nat) :
    keptLines output cap = (output.wholeLines.filter (· ≠ [])).take cap := by
  refine congrArg (List.take cap) ?_
  induction output using Search.separated '\n' with
  | last front whole =>
      rw [Text.lines, List.splitOn_eq_singleton whole, Text.wholeLines_of_notMem whole]
      by_cases blank : front = [] <;> simp [blank, beforeReturn_of_uncut uncut]
  | broken front back whole ih =>
      rw [List.mem_append, List.mem_cons, not_or, not_or] at uncut
      rw [Text.lines_append_cons whole, Text.wholeLines_append_cons whole, List.filter_cons,
        List.filter_cons]
      split
      · rw [List.map_cons, ih uncut.2.2, beforeReturn_of_uncut uncut.1]
      · exact ih uncut.2.2

/-- With carriage returns, the blank lines of an output remain. -/
theorem keptLines_withReturns (uncut : '\r' ∉ output) (cap : Nat) :
    keptLines output.withReturns cap = output.wholeLines.take cap := by
  refine congrArg (List.take cap) ?_
  induction output using Search.separated '\n' with
  | last front whole =>
      rw [Text.withReturns_of_notMem whole, Text.lines, List.splitOn_eq_singleton whole,
        Text.wholeLines_of_notMem whole]
      by_cases blank : front = [] <;> simp [blank, beforeReturn_of_uncut uncut]
  | broken front back whole ih =>
      rw [List.mem_append, List.mem_cons, not_or, not_or] at uncut
      have returned : '\n' ∉ front ++ ['\r'] := by simp [whole]
      have cut : beforeReturn (front ++ ['\r']) = front := by
        rw [beforeReturn, Search.takeWhile_append_cons_self, Search.takeWhile_of_notMem uncut.1]
      rw [Text.withReturns_append_cons whole, Text.lines_append_cons returned,
        Text.wholeLines_append_cons whole, List.filter_cons_of_pos (by simp), List.map_cons, cut,
        ih uncut.2.2]

end Transcript

/-! ### Complaints and blank lines -/

namespace Finding

variable {input line : Text} {lines front rest : List Text}

/-- Whether there is a complaint on a line. -/
def complains (input line : Text) : Bool :=
  (ofLine? input line none).isSome

/-- What continues a line has no part in whether there is a complaint on it. -/
theorem isSome_ofLine? (input line : Text) (next : Option Text) :
    (ofLine? input line next).isSome = complains input line := by
  rw [complains, ofLine?_eq, ofLine?_eq]
  split
  · rw [ofStripped?, ofStripped?, Option.isSome_map, Option.isSome_map]
  · rfl

/-- A line that does not complain about the input gives no finding, whatever follows it. -/
theorem ofLine?_of_not_complains (quiet : complains input line = false) (next : Option Text) :
    ofLine? input line next = none := by
  rw [← Option.not_isSome_iff_eq_none, isSome_ofLine?, quiet]
  exact Bool.false_ne_true

/-- There is no complaint on a blank line. -/
theorem complains_nil (input : Text) : complains input [] = false := by
  by_cases named : input = []
  · rw [complains, ofLine?, if_pos (.inl named)]
    rfl
  · rw [complains, ofLine?_of_unnamed (mt List.infix_nil.1 named)]
    rfl

/-- There are as many complaints as lines with one. -/
theorem length_ofLines (input : Text) (lines : List Text) :
    (ofLines input lines).length = lines.countP (complains input) := by
  induction lines with
  | nil => rfl
  | cons line rest ih =>
      rw [ofLines, List.length_append, ih, List.countP_cons, Nat.add_comm, Option.length_toList,
        isSome_ofLine?]

/-- Lines that do not complain give no findings. -/
theorem ofLines_eq_nil (quiet : ∀ line ∈ lines, complains input line = false) :
    ofLines input lines = [] := by
  rw [← List.length_eq_zero_iff, length_ofLines, List.countP_eq_zero]
  simpa using quiet

/-- What is read in front of a line does not depend on what follows this line. -/
theorem exists_ofLines_append (input : Text) (front : List Text) (line : Text) :
    ∃ before, ∀ rest, ofLines input (front ++ line :: rest) =
      before ++ ofLines input (line :: rest) := by
  induction front with
  | nil => exact ⟨[], fun _ => rfl⟩
  | cons first front ih =>
      obtain ⟨before, hbefore⟩ := ih
      have next (rest : List Text) :
          (front ++ line :: rest).head? = (front ++ [line]).head? := by
        cases front <;> rfl
      refine ⟨(ofLine? input first ((front ++ [line]).head?.filter isContinuation)).toList ++
        before, fun rest => ?_⟩
      rw [List.cons_append, ofLines, next, hbefore, List.append_assoc]

/-- A complaint followed by lines without one depends on the first of these at most. -/
theorem ofLines_cons_of_quiet (quiet : ∀ other ∈ rest, complains input other = false) :
    ofLines input (line :: rest) =
      (ofLine? input line (rest.head?.filter isContinuation)).toList := by
  rw [ofLines, ofLines_eq_nil quiet, List.append_nil]

/-- Lines without complaints matter to the lines in front of them only when the first of them
continues a complaint on the last one. -/
theorem ofLines_append_congr {rest' : List Text}
    (quiet : ∀ other ∈ rest, complains input other = false)
    (quiet' : ∀ other ∈ rest', complains input other = false)
    (next : ∀ init line, front = init ++ [line] → complains input line = true →
      rest.head?.filter isContinuation = rest'.head?.filter isContinuation) :
    ofLines input (front ++ rest) = ofLines input (front ++ rest') := by
  rcases List.eq_nil_or_concat' front with rfl | ⟨init, line, rfl⟩
  · rw [List.nil_append, List.nil_append, ofLines_eq_nil quiet, ofLines_eq_nil quiet']
  · obtain ⟨before, hbefore⟩ := exists_ofLines_append input init line
    rw [← List.append_cons, ← List.append_cons, hbefore, hbefore, ofLines_cons_of_quiet quiet,
      ofLines_cons_of_quiet quiet']
    cases complaint : complains input line with
    | false => rw [ofLine?_of_not_complains complaint, ofLine?_of_not_complains complaint]
    | true => rw [next init line rfl complaint]

/-- A complaint tells whether it was continued. -/
theorem continued_of_ofLine? {next : Option Text} {f : Finding}
    (h : ofLine? input line next = some f) : f.continued = next.isSome := by
  obtain ⟨⟩ := ofLine?_eq_some_iff.1 h
  rfl

/-- No complaint depends on the blank lines among some lines: there is none behind a blank line, and
none in front of one is continued behind it. -/
structure Tight (input : Text) (lines : List Text) : Prop where
  behind {front rest : List Text} (split : lines = front ++ [] :: rest) :
    ∀ line ∈ rest, complains input line = false
  across {front rest : List Text} {line : Text} (split : lines = front ++ line :: [] :: rest)
    (complaint : complains input line = true) :
    ∀ next, rest.find? (· ≠ []) = some next → isContinuation next = false

/-! ### With the blank lines and without them -/

/-- Nothing is dropped from lines of which none is empty. -/
theorem filter_of_notMem (full : [] ∉ lines) : lines.filter (· ≠ []) = lines :=
  List.filter_eq_self.2 fun _ mem => decide_eq_true (ne_of_mem_of_not_mem mem full)

/-- A line with a complaint is not blank. -/
theorem ne_nil_of_complains (complaint : complains input line = true) : line ≠ [] := by
  rintro rfl
  cases (complains_nil input).symm.trans complaint

/-- Empty lines are no complaints, so that dropping them leaves the number of those that are. -/
theorem countP_filter (input : Text) (lines : List Text) :
    (lines.filter (· ≠ [])).countP (complains input) = lines.countP (complains input) := by
  rw [List.countP_filter]
  refine List.countP_congr fun line _ => ?_
  simpa using ne_nil_of_complains

/-- Under a cap that no blank line comes before, blank lines make no difference. -/
theorem take_filter_of_notMem {cap : Nat} (full : [] ∉ lines.take cap) :
    (lines.filter (· ≠ [])).take cap = lines.take cap := by
  have parts : lines.filter (· ≠ []) =
      lines.take cap ++ (lines.drop cap).filter (· ≠ []) := by
    rw [← filter_of_notMem full, ← List.filter_append, List.take_append_drop]
  rw [parts]
  by_cases short : lines.length ≤ cap
  · rw [List.drop_of_length_le short, List.filter_nil, List.append_nil, List.take_take,
      Nat.min_self]
  · exact List.take_left' (List.length_take_of_le (by omega))

/-- Lines in which no complaint depends on the blank lines are read in the same way without them,
under any cap. -/
theorem Tight.ofLines_take (tight : Tight input lines) (cap : Nat) :
    ofLines input (lines.take cap) = ofLines input ((lines.filter (· ≠ [])).take cap) := by
  by_cases blank : [] ∈ lines.take cap
  · obtain ⟨front, middle, taken, full⟩ := List.eq_append_cons_of_mem blank
    have split : lines = front ++ [] :: (middle ++ lines.drop cap) := by
      rw [← List.cons_append, ← List.append_assoc, ← taken, List.take_append_drop]
    have within : ∀ other ∈ middle, other ∈ middle ++ lines.drop cap :=
      fun _ => List.mem_append_left _
    obtain ⟨k, hcap⟩ : ∃ k, cap = front.length + (k + 1) := by
      have length := congrArg List.length taken
      rw [List.length_take, List.length_append, List.length_cons] at length
      exact ⟨cap - front.length - 1, by omega⟩
    generalize middle ++ lines.drop cap = rest at split within
    have others : (lines.filter (· ≠ [])).take cap =
        front ++ (rest.filter (· ≠ [])).take (k + 1) := by
      rw [hcap, split, List.filter_append, filter_of_notMem full, List.filter_cons_of_neg (by simp),
        List.take_length_add_append]
    have quiet := tight.behind split
    rw [taken, others]
    refine ofLines_append_congr ?_ ?_ fun init line hfront complaint => ?_
    · exact List.forall_mem_cons.2
        ⟨complains_nil input, fun other mem => quiet other (within other mem)⟩
    · exact fun other mem => quiet other (List.mem_of_mem_filter (List.mem_of_mem_take mem))
    · rw [hfront, ← List.append_cons] at split
      have uncontinued := tight.across split complaint
      rw [List.head?_take, if_neg (Nat.succ_ne_zero k), List.head?_filter]
      refine (Option.filter_eq_none_iff.2 fun other found => ?_).symm
      exact Bool.not_eq_true _ ▸ uncontinued other found
  · rw [take_filter_of_notMem blank]

/-- Where blank lines make no difference, no complaint is behind one. Under the cap that the line of
this complaint reaches without blank lines, it would not be looked at with them. -/
theorem not_complains_behind {front rest : List Text}
    (same : ∀ cap, ofLines input ((front ++ [] :: rest).take cap) =
      ofLines input (((front ++ [] :: rest).filter (· ≠ [])).take cap)) :
    ∀ line ∈ rest, complains input line = false := by
  intro line mem
  obtain ⟨middle, back, rfl, -⟩ := List.eq_append_cons_of_mem mem
  refine eq_false_of_ne_true fun complaint => ?_
  rw [← List.cons_append, ← List.append_assoc] at same
  have fewer : ((front ++ [] :: middle).filter (· ≠ [])).length < (front ++ [] :: middle).length :=
    List.length_filter_lt_length_iff_exists.2 ⟨[], by simp, by simp⟩
  have counts := countP_filter input (front ++ [] :: middle)
  generalize front ++ [] :: middle = passed at same fewer counts
  have written : (line :: back).filter (· ≠ []) = line :: back.filter (· ≠ []) :=
    List.filter_cons_of_pos (decide_eq_true (ne_nil_of_complains complaint))
  have lengths := congrArg List.length (same ((passed.filter (· ≠ [])).length + 1))
  rw [List.take_append_of_le_length fewer, List.filter_append, written,
    List.take_length_add_append, length_ofLines, length_ofLines, List.take_succ_cons,
    List.take_zero, List.countP_append, counts, List.countP_singleton, if_pos complaint] at lengths
  exact Nat.not_succ_le_self _ (lengths ▸ (List.take_sublist _ passed).countP_le)

/-- Blank lines make no difference, under whatever cap, exactly when no complaint depends on
them. -/
theorem ofLines_filter_iff (input : Text) (lines : List Text) :
    (∀ cap, ofLines input (lines.take cap) =
      ofLines input ((lines.filter (· ≠ [])).take cap)) ↔ Tight input lines := by
  refine ⟨fun same => ?_, Tight.ofLines_take⟩
  have behind {front rest : List Text} (split : lines = front ++ [] :: rest) :
      ∀ line ∈ rest, complains input line = false := by
    subst split
    exact not_complains_behind same
  refine ⟨behind, fun {front rest line} split complaint next found => ?_⟩
  have quiet := behind (split.trans (List.append_cons front line _))
  have full : [] ∉ front := by
    intro blank
    obtain ⟨before, after, hfront, -⟩ := List.eq_append_cons_of_mem blank
    rw [hfront, List.append_assoc, List.cons_append] at split
    cases (behind split line (by simp)).symm.trans complaint
  have written : lines.filter (· ≠ []) = front ++ line :: rest.filter (· ≠ []) := by
    rw [split, List.filter_append, filter_of_notMem full]
    simp [ne_nil_of_complains complaint]
  -- Under a cap that all lines stay below, the complaint is read once with the line behind the
  -- blank ones and once without it.
  obtain ⟨before, hbefore⟩ := exists_ofLines_append input front line
  have whole := same lines.length
  rw [List.take_length, List.take_of_length_le (List.length_filter_le _ _), written, split, hbefore,
    hbefore, List.append_cancel_left_eq,
    ofLines_cons_of_quiet (List.forall_mem_cons.2 ⟨complains_nil input, quiet⟩),
    ofLines_cons_of_quiet fun other mem => quiet other (List.mem_of_mem_filter mem),
    List.head?_filter, found] at whole
  refine eq_false_of_ne_true fun continues => ?_
  obtain ⟨f, hf⟩ := Option.isSome_iff_exists.1 complaint
  have uncontinued : ([] :: rest).head?.filter isContinuation = none := rfl
  rw [uncontinued, hf, Option.filter_some_pos continues] at whole
  have both : some f = ofLine? input line (some next) := by
    simpa using congrArg List.head? whole
  cases (continued_of_ofLine? hf).symm.trans (continued_of_ofLine? both.symm)

end Finding

/-! ### Outputs -/

namespace Transcript

/-- The same transcript with carriage returns in front of the newlines of its output. -/
def withReturns (t : Transcript) : Transcript :=
  { t with output := t.output.withReturns }

/-- What is read of an output without carriage returns, and of the same output with them. Where the
lines end in carriage returns, blank lines count toward the cap and part complaints from what
continues them; where they do not, blank lines are passed over. So the two are read alike as far as
no blank line comes before the cap, and they are read alike under every cap exactly when no
complaint depends on the blank lines. -/
theorem findings_withReturns_iff (t : Transcript) (uncut : '\r' ∉ t.output) :
    (∀ cap, t.withReturns.findings cap =
        Finding.ofLines t.input (t.output.wholeLines.take cap)) ∧
      (∀ cap, t.findings cap =
        Finding.ofLines t.input ((t.output.wholeLines.filter (· ≠ [])).take cap)) ∧
      (∀ cap, [] ∉ t.output.wholeLines.take cap → t.withReturns.findings cap = t.findings cap) ∧
      ((∀ cap, t.withReturns.findings cap = t.findings cap) ↔
        Finding.Tight t.input t.output.wholeLines) := by
  have returned (cap : Nat) : t.withReturns.findings cap =
      Finding.ofLines t.input (t.output.wholeLines.take cap) := by
    rw [findings, withReturns, keptLines_withReturns uncut]
  have plain (cap : Nat) : t.findings cap =
      Finding.ofLines t.input ((t.output.wholeLines.filter (· ≠ [])).take cap) := by
    rw [findings, keptLines_of_uncut uncut]
  refine ⟨returned, plain, fun cap full => ?_, ?_⟩
  · rw [returned, plain, Finding.take_filter_of_notMem full]
  · simp only [returned, plain, Finding.ofLines_filter_iff]

/-- A complaint that is continued on the next line is read in the same way in either encoding. -/
theorem findings_withReturns_continued :
    let t : Transcript :=
      { output := "bad at /tmp/a.pl line 1.\n\tnear x\n".toList, input := "/tmp/a.pl".toList }
    '\r' ∉ t.output ∧ (∀ cap, t.withReturns.findings cap = t.findings cap) ∧
      (t.withReturns.findings 2).map Finding.message = ["bad at line 1. near x".toList] := by
  intro t
  have uncut : '\r' ∉ t.output := by decide
  have full : [] ∉ t.output.wholeLines := by decide
  refine ⟨uncut, fun cap => ?_, by decide⟩
  exact (findings_withReturns_iff t uncut).2.2.1 cap fun blank => full (List.mem_of_mem_take blank)

/-- With carriage returns, a blank line uses up the cap before a complaint, and parts a complaint
from the line that continues it. -/
theorem blank_line_counts :
    let input := "/tmp/a.pl".toList
    let late : Transcript := { output := "\nbad at /tmp/a.pl line 1.\n".toList, input }
    let apart : Transcript := { output := "bad at /tmp/a.pl line 1.\n\n\tnear x\n".toList, input }
    ('\r' ∉ late.output ∧ (late.findings 1).map Finding.message = ["bad at line 1.".toList] ∧
      late.withReturns.findings 1 = []) ∧
    '\r' ∉ apart.output ∧
      (apart.findings 10).map Finding.message = ["bad at line 1. near x".toList] ∧
      (apart.withReturns.findings 10).map Finding.message = ["bad at line 1.".toList] := by
  decide

end Transcript

end SyntaxWatch
