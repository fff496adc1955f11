import Mathlib.Data.List.TakeWhile
import SyntaxWatch.Proofs.Finding.Grammar
import SyntaxWatch.Proofs.Reconciliation
import SyntaxWatch.Proofs.Text.Line
import SyntaxWatch.Report.Human

/-!
# Reports for readers, line by line

A message is put together from lines of the output that were cut at their carriage returns, so it
has no line break in it (`Transcript.unbroken_of_mem_diagnose`), and the lines of a report are the
diagnostics, one by one (`Report.lines_human`).

They are arranged by source line, and those of one source line stay in the order in which they were
(`Report.Arranged`). This leaves no choice (`Report.Arranged.unique`). Reconciliation takes the
complaints in reverse, so of two complaints about one source line the later one is shown first.

## Main results

* `Report.arranged_byLine`: the diagnostics of a report are arranged.
* `Transcript.human_diagnose`: the report on any run of the checker, line by line.
-/

namespace SyntaxWatch

/-! ### Messages without line breaks -/

namespace Finding

variable {input line : Text} {continuation : Option Text} {f : Finding}

/-- A message is made of the line, a space, and the line that continues it. -/
theorem Stated.mem_message (stated : Stated input line continuation f) {c : Char}
    (h : c ∈ f.message) : c ∈ line ∨ c = ' ' ∨ ∃ next ∈ continuation, c ∈ next := by
  cases stated with
  | @intro stripped before rest number ending n _ _ strips _ _ _ _ _ =>
  have kept : c ∈ stripped → c ∈ line := fun mem => by
    rw [← (Search.replaced_iff (by simp)).1 strips] at mem
    exact (Search.mem_replace mem).resolve_left List.not_mem_nil
  cases continuation with
  | none => exact .inl (kept h)
  | some next =>
      rcases List.mem_append.1 h with mem | mem
      · exact .inl (kept mem)
      · rcases List.mem_cons.1 mem with space | mem
        · exact .inr (.inl space)
        · exact .inr (.inr ⟨next, rfl, (List.dropWhile_sublist _).subset mem⟩)

/-- A complaint stands on one of the lines, and its continuation is another one. -/
theorem exists_of_mem_ofLines {lines : List Text} (h : f ∈ ofLines input lines) :
    ∃ line ∈ lines, ∃ continuation, (∀ next ∈ continuation, next ∈ lines) ∧
      Stated input line continuation f := by
  induction lines with
  | nil => simp [ofLines] at h
  | cons line rest ih =>
      rw [ofLines, List.mem_append, Option.mem_toList] at h
      rcases h with here | later
      · refine ⟨line, List.mem_cons_self, _, fun next hnext => ?_, ofLine?_eq_some_iff.1 here⟩
        exact List.mem_cons_of_mem _ (List.mem_of_head? (Option.mem_filter_iff.1 hnext).1)
      · obtain ⟨other, mem, continuation, next, stated⟩ := ih later
        exact ⟨other, List.mem_cons_of_mem _ mem, continuation,
          fun more hmore => List.mem_cons_of_mem _ (next more hmore), stated⟩

end Finding

namespace Transcript

variable {t : Transcript} {text : Text} {cap : Nat}

/-- The kept lines have no line break in them. -/
theorem unbroken_of_mem_keptLines {output line : Text} (h : line ∈ keptLines output cap) :
    '\n' ∉ line ∧ '\r' ∉ line := by
  obtain ⟨whole, mem, rfl⟩ := List.mem_map.1 (List.mem_of_mem_take h)
  have unbroken := Text.newline_notMem_of_mem_lines (List.mem_filter.1 mem).1
  refine ⟨fun newline => unbroken ((List.takeWhile_sublist _).subset newline), fun cut => ?_⟩
  simpa using List.mem_takeWhile_imp cut

/-- A message is put together from kept lines and a space, so it has no line break in it. -/
theorem unbroken_of_mem_findings {f : Finding} (h : f ∈ t.findings cap) :
    '\n' ∉ f.message ∧ '\r' ∉ f.message := by
  obtain ⟨line, mem, continuation, next, stated⟩ := Finding.exists_of_mem_ofLines h
  have absent {c : Char} (other : c ≠ ' ')
      (kept : ∀ line ∈ keptLines t.output cap, c ∉ line) : c ∉ f.message := fun inside => by
    rcases stated.mem_message inside with here | space | ⟨more, hmore, there⟩
    · exact kept line mem here
    · exact other space
    · exact kept more (next more hmore) there
  exact ⟨absent (by decide) fun _ kept => (unbroken_of_mem_keptLines kept).1,
    absent (by decide) fun _ kept => (unbroken_of_mem_keptLines kept).2⟩

/-- No message that is shown has a line break in it. -/
theorem unbroken_of_mem_diagnose {d : Diagnostic} (h : d ∈ t.diagnose text cap) :
    '\n' ∉ d.message ∧ '\r' ∉ d.message := by
  have dark : d.unlit ∈ (t.diagnose text cap).map Diagnostic.unlit := List.mem_map_of_mem h
  rw [diagnose, Diagnostic.map_unlit_reconcile, List.mem_reverse] at dark
  obtain ⟨f, mem, same⟩ := List.mem_map.1 dark
  have message : f.message = d.message := congrArg Diagnostic.message same
  exact message ▸ unbroken_of_mem_findings mem

end Transcript

/-! ### Diagnostics by source line -/

namespace Report

variable {set sorted sorted' : List Diagnostic} {resource : Text}

/-- The diagnostics of a set, arranged by source line. Those of one source line keep their order. -/
structure Arranged (set sorted : List Diagnostic) : Prop where
  perm : sorted.Perm set
  ordered : sorted.Pairwise fun first second => first.line ≤ second.line
  ties : ∀ line, sorted.filter (·.line = line) = set.filter (·.line = line)

/-- Sorting arranges. -/
theorem arranged_byLine (set : List Diagnostic) : Arranged set (byLine set) := by
  let le (first second : Diagnostic) : Bool := first.line ≤ second.line
  have trans (a b c : Diagnostic) (ab : le a b = true) (bc : le b c = true) : le a c = true :=
    decide_eq_true (Nat.le_trans (of_decide_eq_true ab) (of_decide_eq_true bc))
  have total (a b : Diagnostic) : (le a b || le b a) = true := by
    simpa [le] using Nat.le_total a.line b.line
  have perm : (byLine set).Perm set := List.mergeSort_perm set _
  refine ⟨perm, ?_, fun line => ?_⟩
  · exact (List.pairwise_mergeSort trans total set).imp of_decide_eq_true
  · -- Those of one line are in order as they are, so sorting leaves them where they are.
    have same : (set.filter (·.line = line)).Pairwise fun a b => le a b = true := by
      refine List.pairwise_of_forall_mem_list fun a ha b hb => ?_
      have first := of_decide_eq_true (List.mem_filter.1 ha).2
      have second := of_decide_eq_true (List.mem_filter.1 hb).2
      exact decide_eq_true (Nat.le_of_eq (first.trans second.symm))
    have kept := (List.sublist_mergeSort trans total same List.filter_sublist).filter
      (·.line = line)
    rw [List.filter_filter] at kept
    simp only [Bool.and_self] at kept
    exact (kept.eq_of_length (perm.filter _).length_eq.symm).symm

/-- What comes first in order has the least line. -/
theorem line_le_of_mem {first d : Diagnostic} {rest : List Diagnostic}
    (ordered : (first :: rest).Pairwise fun a b => a.line ≤ b.line) (mem : d ∈ first :: rest) :
    first.line ≤ d.line := by
  rcases List.mem_cons.1 mem with rfl | mem
  · exact Nat.le_refl _
  · exact (List.pairwise_cons.1 ordered).1 d mem

/-- Lists with the same diagnostics of every line have the same diagnostics. -/
theorem mem_iff_of_ties
    (ties : ∀ line, sorted.filter (·.line = line) = sorted'.filter (·.line = line))
    (d : Diagnostic) : d ∈ sorted ↔ d ∈ sorted' := by
  have same : d ∈ sorted.filter (·.line = d.line) ↔ d ∈ sorted'.filter (·.line = d.line) := by
    rw [ties]
  simpa using same

/-- Lists in order are equal when they have the same diagnostics of every line, in the same
order. -/
theorem eq_of_ties (ordered : sorted.Pairwise fun a b => a.line ≤ b.line)
    (ordered' : sorted'.Pairwise fun a b => a.line ≤ b.line)
    (ties : ∀ line, sorted.filter (·.line = line) = sorted'.filter (·.line = line)) :
    sorted = sorted' := by
  have mem_iff := mem_iff_of_ties ties
  induction sorted generalizing sorted' with
  | nil => exact (List.eq_nil_iff_forall_not_mem.2 fun d mem =>
      List.not_mem_nil ((mem_iff d).2 mem)).symm
  | cons first rest ih =>
      cases sorted' with
      | nil => exact absurd ((mem_iff first).1 List.mem_cons_self) List.not_mem_nil
      | cons first' rest' =>
          have line : first'.line = first.line := Nat.le_antisymm
            (line_le_of_mem ordered' ((mem_iff first).1 List.mem_cons_self))
            (line_le_of_mem ordered ((mem_iff first').2 List.mem_cons_self))
          have heads := ties first.line
          rw [List.filter_cons_of_pos (by simp), List.filter_cons_of_pos (by simp [line]),
            List.cons_eq_cons] at heads
          obtain ⟨rfl, tails⟩ := heads
          have ties' (n : Nat) : rest.filter (·.line = n) = rest'.filter (·.line = n) := by
            by_cases here : first.line = n
            · rw [← here]
              exact tails
            · have both := ties n
              rwa [List.filter_cons_of_neg (by simpa using here),
                List.filter_cons_of_neg (by simpa using here)] at both
          rw [ih (List.pairwise_cons.1 ordered).2 (List.pairwise_cons.1 ordered').2 ties'
            (mem_iff_of_ties ties')]

/-- There is one arrangement. -/
theorem Arranged.unique (arranged : Arranged set sorted) (arranged' : Arranged set sorted') :
    sorted = sorted' :=
  eq_of_ties arranged.ordered arranged'.ordered fun line =>
    (arranged.ties line).trans (arranged'.ties line).symm

/-! ### One line for each diagnostic -/

/-- What is reported of a diagnostic is one line, when neither its message nor the name of the
resource has a line break in it. -/
theorem newline_notMem_report (whole : '\n' ∉ resource) {d : Diagnostic}
    (unbroken : '\n' ∉ d.message) : '\n' ∉ d.report resource := by
  have number : '\n' ∉ Decimal.print d.line :=
    (Decimal.numeral_print d.line).notMem (by decide) (by decide)
  have severity : '\n' ∉ d.severity.name := by
    cases d.severity <;> decide
  simp [Diagnostic.report, whole, number, severity, unbroken]

/-- Lines that end in newlines are the lines of their text, and an empty one follows them. -/
theorem lines_ended {lines : List Text} (whole : ∀ line ∈ lines, '\n' ∉ line) :
    (Text.ended lines).lines = lines ++ [[]] := by
  induction lines with
  | nil => rfl
  | cons line lines ih =>
      obtain ⟨first, rest⟩ := List.forall_mem_cons.1 whole
      rw [Text.ended_cons, Text.lines_append_cons first, ih rest, List.cons_append]

/-- The lines of a report are those of its diagnostics. -/
theorem lines_human (whole : '\n' ∉ resource) (some : set ≠ [])
    (unbroken : ∀ d ∈ set, '\n' ∉ d.message) :
    (human resource set).lines = (byLine set).map (·.report resource) ++ [[]] := by
  have report : human resource set = Text.ended ((byLine set).map (·.report resource)) := by
    rw [human, if_neg (by simpa using some), Text.ended, List.flatMap_map]
  rw [report, lines_ended]
  intro line mem
  obtain ⟨d, sorted, rfl⟩ := List.mem_map.1 mem
  exact newline_notMem_report whole (unbroken d ((arranged_byLine set).perm.mem_iff.1 sorted))

end Report

/-! ### Reports on runs of the checker -/

/-- What a report on a run of the checker looks like. -/
structure Transcript.Reported (t : Transcript) (text : Text) (cap : Nat) (resource : Text) :
    Prop where
  /-- No message has a line break in it. -/
  unbroken : ∀ d ∈ t.diagnose text cap, '\n' ∉ d.message ∧ '\r' ∉ d.message
  /-- The lines are the diagnostics, arranged by source line. -/
  lines : t.diagnose text cap ≠ [] → ∃ sorted, Report.Arranged (t.diagnose text cap) sorted ∧
    (Report.human resource (t.diagnose text cap)).lines = sorted.map (·.report resource) ++ [[]]
  /-- There is no other arrangement. -/
  determined : ∀ sorted sorted', Report.Arranged (t.diagnose text cap) sorted →
    Report.Arranged (t.diagnose text cap) sorted' → sorted = sorted'
  /-- The diagnostics of one source line are those of the complaints about it, the last one
  first. -/
  later : ∀ line, ((t.diagnose text cap).filter (·.line = line)).map Diagnostic.unlit =
    (((t.findings cap).filter (·.line = line)).map Diagnostic.ofFinding).reverse

namespace Transcript

variable {resource : Text}

/-- Of the complaints about one source line, the later one comes first. -/
theorem map_unlit_filter_diagnose (t : Transcript) (text : Text) (cap line : Nat) :
    ((t.diagnose text cap).filter (·.line = line)).map Diagnostic.unlit =
      (((t.findings cap).filter (·.line = line)).map Diagnostic.ofFinding).reverse := by
  have dark : ((t.diagnose text cap).filter (·.line = line)).map Diagnostic.unlit =
      ((t.diagnose text cap).map Diagnostic.unlit).filter (·.line = line) := by
    rw [List.filter_map]
    rfl
  rw [dark, diagnose, Diagnostic.map_unlit_reconcile, List.filter_reverse, List.filter_map]
  rfl

/-- The report on a run has one line for each diagnostic. These lines are arranged by source line,
and of two complaints about one source line the later one comes first. -/
theorem human_diagnose (t : Transcript) (text : Text) (cap : Nat) (whole : '\n' ∉ resource) :
    t.Reported text cap resource where
  unbroken _ mem := unbroken_of_mem_diagnose mem
  lines some := ⟨_, Report.arranged_byLine _, Report.lines_human whole some fun _ mem =>
    (unbroken_of_mem_diagnose mem).1⟩
  determined _ _ := Report.Arranged.unique
  later := map_unlit_filter_diagnose t text cap

/-- Three complaints, two of which are about one source line. -/
theorem human_diagnose_of_three :
    let t : Transcript :=
      { output := "bad at /a line 2.\nworse at /a line 1.\nUseless use at /a line 2.\r\n".toList
        input := "/a".toList }
    '\n' ∉ "a.pl".toList ∧ (t.diagnose "x\ny\n".toList 10).length = 3 ∧
      t.Reported "x\ny\n".toList 10 "a.pl".toList :=
  ⟨by decide, by decide, human_diagnose _ _ _ (by decide)⟩

end Transcript

end SyntaxWatch
