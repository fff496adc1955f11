import SyntaxWatch.Proofs.Finding.LineEndings
import SyntaxWatch.Reconciliation

/-!
# What the cap cuts off

The cap counts the lines that are looked at, whether there is a complaint on them or not, and each
of these lines then looks at the one behind it. So a smaller cap takes complaints away from the end,
and it can take one line more: when the last line that is kept has a complaint, the line that
continues it may be the first one that is not kept. Then the complaint remains, without its
continuation.

## Main definitions

* `Finding.continuedBy`: what a continuation adds to a complaint.
* `Transcript.CutShort`: a complaint is cut off from its continuation.

## Main results

* `Finding.ofLines_snoc`: what is read of some lines, alone and with others behind them.
* `Transcript.findings_of_smaller_cap`: the complaints under two caps, one by one.
-/

namespace SyntaxWatch

namespace Finding

variable {input line next : Text} {f : Finding}

/-- A complaint with a line that continues it. -/
def continuedBy (f : Finding) (next : Text) : Finding :=
  { f with message := f.message ++ ' ' :: next.trimStart, continued := true }

/-- A continuation adds to the complaint on a line, and has no other part in it. -/
theorem ofLine?_some (input line next : Text) :
    ofLine? input line (some next) = (ofLine? input line none).map (continuedBy · next) := by
  rw [ofLine?_eq, ofLine?_eq]
  split
  · rw [ofStripped?, ofStripped?, Option.map_map]
    rfl
  · rfl

/-- The complaints on some lines, alone and with other lines behind them. Those in front of the last
line are the same, and the complaint on the last line looks at the first of the others. -/
theorem ofLines_snoc (input : Text) (init : List Text) (line : Text) :
    ∃ before, ∀ rest, ofLines input (init ++ line :: rest) =
      before ++ ((ofLine? input line (rest.head?.filter isContinuation)).toList ++
        ofLines input rest) := by
  obtain ⟨before, hbefore⟩ := exists_ofLines_append input init line
  exact ⟨before, fun rest => by rw [hbefore, ofLines]⟩

/-- When lines are added behind a complaint, and the first of them continues it, then it is
continued, and others may follow. -/
theorem ofLines_append_of_continued {front rest : List Text} (last : front.getLast? = some line)
    (head : rest.head? = some next) (continues : isContinuation next = true)
    (complaint : ofLine? input line none = some f) :
    ∃ before back, ofLines input front = before ++ [f] ∧
      ofLines input (front ++ rest) = before ++ f.continuedBy next :: back := by
  obtain ⟨init, rfl⟩ := List.getLast?_eq_some_iff.1 last
  obtain ⟨before, hbefore⟩ := ofLines_snoc input init line
  refine ⟨before, ofLines input rest, ?_, ?_⟩
  · simpa [ofLines, complaint] using hbefore []
  · rw [← List.append_cons, hbefore, head, Option.filter_some_pos continues, ofLine?_some,
      complaint]
    rfl

/-- In all other cases the complaints stay, and others may follow. -/
theorem ofLines_append_cases (input : Text) (front rest : List Text) :
    (∃ back, ofLines input (front ++ rest) = ofLines input front ++ back) ∨
      ∃ line next f, front.getLast? = some line ∧ rest.head? = some next ∧
        isContinuation next = true ∧ ofLine? input line none = some f := by
  rcases List.eq_nil_or_concat' front with rfl | ⟨init, line, rfl⟩
  · exact .inl ⟨_, rfl⟩
  · obtain ⟨before, hbefore⟩ := ofLines_snoc input init line
    have alone : ofLines input (init ++ [line]) = before ++ (ofLine? input line none).toList := by
      simpa [ofLines] using hbefore []
    rw [← List.append_cons, hbefore, alone]
    cases complaint : ofLine? input line none with
    | none =>
        refine .inl ⟨ofLines input rest, ?_⟩
        rw [ofLine?_of_not_complains (by rw [complains, complaint]; rfl)]
        simp
    | some f =>
        cases continuation : rest.head?.filter isContinuation with
        | none => exact .inl ⟨ofLines input rest, by simp [complaint]⟩
        | some next =>
            obtain ⟨head, continues⟩ := Option.filter_eq_some_iff.1 continuation
            exact .inr ⟨line, next, f, by simp, head, continues, complaint⟩

end Finding

namespace Transcript

variable {t : Transcript} {m n : Nat} {f g : Finding}

/-- A complaint is cut off from its continuation: its line is the last one that is kept under the
smaller cap `m`, and the line right behind it, which is kept under the larger cap `n` only,
continues it. -/
def CutShort (t : Transcript) (m n : Nat) (f g : Finding) : Prop :=
  ∃ line next, (keptLines t.output m).getLast? = some line ∧
    (keptLines t.output n)[m]? = some next ∧ Finding.isContinuation next = true ∧
    Finding.ofLine? t.input line none = some f ∧ g = f.continuedBy next

/-- A continuation touches neither the line nor the summary of a complaint. -/
theorem CutShort.agrees (cut : t.CutShort m n f g) :
    g.line = f.line ∧ g.summary = f.summary ∧
      f.continued = false ∧ g.continued = true ∧ f.message <+: g.message := by
  obtain ⟨line, next, -, -, -, complaint, rfl⟩ := cut
  exact ⟨rfl, rfl, Finding.continued_of_ofLine? complaint, rfl, List.prefix_append _ _⟩

/-- The lines that a smaller cap keeps are the first of those that a larger one keeps. -/
theorem keptLines_of_smaller_cap (output : Text) (smaller : m ≤ n) :
    keptLines output m = (keptLines output n).take m := by
  rw [keptLines, keptLines, List.take_take, Nat.min_eq_left smaller]

/-- There are no more complaints than lines that are kept. -/
theorem length_findings_le (t : Transcript) (cap : Nat) : (t.findings cap).length ≤ cap := by
  rw [findings, Finding.length_ofLines]
  exact List.countP_le_length.trans (List.length_take_le _ _)

/-- Under a larger cap more lines are kept behind those of the smaller one. -/
theorem exists_keptLines_append (output : Text) (smaller : m ≤ n) :
    ∃ rest, keptLines output n = keptLines output m ++ rest ∧
      rest.head? = (keptLines output n)[m]? := by
  refine ⟨(keptLines output n).drop m, ?_, List.head?_drop⟩
  rw [keptLines_of_smaller_cap output smaller, List.take_append_drop]

/-- A complaint that is cut short is the last one under the smaller cap, and in its place there is
the continued one under the larger cap. -/
theorem CutShort.findings (cut : t.CutShort m n f g) (smaller : m ≤ n) :
    ∃ before back, t.findings m = before ++ [f] ∧ t.findings n = before ++ g :: back := by
  obtain ⟨line, next, last, behind, continues, complaint, rfl⟩ := cut
  obtain ⟨rest, more, head⟩ := exists_keptLines_append t.output smaller
  rw [Transcript.findings, Transcript.findings, more]
  exact Finding.ofLines_append_of_continued last (head.trans behind) continues complaint

/-- Unless a complaint is cut short, a smaller cap takes complaints away from the end only. -/
theorem exists_findings_append (t : Transcript) (smaller : m ≤ n)
    (whole : ¬ ∃ f g, t.CutShort m n f g) : ∃ back, t.findings n = t.findings m ++ back := by
  obtain ⟨rest, more, head⟩ := exists_keptLines_append t.output smaller
  rw [findings, findings, more]
  refine (Finding.ofLines_append_cases t.input (keptLines t.output m) rest).resolve_right ?_
  rintro ⟨line, next, f, last, behind, continues, complaint⟩
  exact whole ⟨f, _, line, next, last, head.symm.trans behind, continues, complaint, rfl⟩

/-- **A smaller cap only cuts.** Under a smaller cap there are at most as many complaints as it
says, and one by one they are the first of those under the larger cap: in their lines, their
summaries and so their severities always, and in all else but for the last one when it is cut off
from its continuation. Then it has no continuation under the smaller cap and one under the larger
cap, and its message is the front of the longer one. Wherever a complaint is cut short, the two
differ in this way. -/
theorem findings_of_smaller_cap (t : Transcript) {m n : Nat} (smaller : m ≤ n) :
    (t.findings m).length ≤ m ∧
      (∀ (i : Nat) (f : Finding), (t.findings m)[i]? = some f →
        ∃ g, (t.findings n)[i]? = some g ∧ g.line = f.line ∧ g.summary = f.summary ∧
          Severity.ofSummary g.summary = Severity.ofSummary f.summary ∧
          (g = f ∨ i + 1 = (t.findings m).length ∧ t.CutShort m n f g ∧
            f.continued = false ∧ g.continued = true ∧ f.message <+: g.message)) ∧
      (t.findings m <+: t.findings n ↔ ¬ ∃ f g, t.CutShort m n f g) := by
  refine ⟨t.length_findings_le m, fun i f found => ?_, fun front => ?_, fun whole => ?_⟩
  · by_cases cut : ∃ f g, t.CutShort m n f g
    · obtain ⟨last, g, cut⟩ := cut
      obtain ⟨before, back, fewer, more⟩ := cut.findings smaller
      rw [more, fewer]
      rw [fewer, List.getElem?_append] at found
      split at found
      · next earlier =>
          exact ⟨f, by rw [List.getElem?_append_left earlier, found], rfl, rfl, rfl, .inl rfl⟩
      · next later =>
          rw [List.getElem?_singleton, Option.ite_none_right_eq_some] at found
          obtain ⟨first, ⟨⟩⟩ := found
          obtain rfl : i = before.length := by omega
          obtain ⟨line, summary, shorter⟩ := cut.agrees
          exact ⟨g, by simp, line, summary, congrArg _ summary, .inr ⟨by simp, cut, shorter⟩⟩
    · obtain ⟨back, more⟩ := t.exists_findings_append smaller cut
      obtain ⟨inside, -⟩ := List.getElem?_eq_some_iff.1 found
      refine ⟨f, ?_, rfl, rfl, rfl, .inl rfl⟩
      rw [more, List.getElem?_append_left inside, found]
  · rintro ⟨f, g, cut⟩
    obtain ⟨before, back, fewer, more⟩ := cut.findings smaller
    rw [fewer, more, List.prefix_append_right_inj, List.cons_prefix_cons] at front
    obtain ⟨-, -, uncontinued, continued, -⟩ := cut.agrees
    rw [front.1, continued] at uncontinued
    cases uncontinued
  · obtain ⟨back, more⟩ := t.exists_findings_append smaller whole
    exact ⟨back, more.symm⟩

/-- Between the caps 1 and 3 a complaint is cut off from the line that continues it, and the
complaint after it is missing. -/
theorem findings_of_smaller_cap_continued :
    let t : Transcript := {
      output := "bad at /t/a.pl line 1.\n\tnear x\nbad at /t/a.pl line 2.\n".toList
      input := "/t/a.pl".toList }
    1 ≤ 3 ∧ (t.findings 1).map Finding.message = ["bad at line 1.".toList] ∧
      (t.findings 3).map Finding.message =
        ["bad at line 1. near x".toList, "bad at line 2.".toList] ∧
      ¬ t.findings 1 <+: t.findings 3 ∧ ∃ f g, t.CutShort 1 3 f g := by
  intro t
  have whole := (findings_of_smaller_cap t (by decide : 1 ≤ 3)).2.2
  have front : ¬ t.findings 1 <+: t.findings 3 := by decide
  exact ⟨by decide, by decide, by decide, front, not_not.1 (mt whole.2 front)⟩

end Transcript

end SyntaxWatch
