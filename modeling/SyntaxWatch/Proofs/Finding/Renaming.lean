import SyntaxWatch.Files.Path
import SyntaxWatch.Proofs.Finding.Template
import SyntaxWatch.Proofs.Reconciliation

/-!
# Diagnostics and the name of the input

Two runs of the checker that differ only in the name of the input are the same template, filled with
two names. Everything up to the complaints works on the template alone: its lines, which of them are
kept, which continue others, and what is stated on each (`Template.findings_fill`). The one
exception is the line that continues a message. The name is not taken out of it, so it comes with
the name into the message.

## Main results

* `Template.findings_fill`: the complaints of a filled template are those of the template, each with
  its continuation filled.
* `Template.diagnose_fill_eq_iff`: the name has no part in lines, severities and highlights, and the
  diagnostics are the same for two names exactly when no continuation has a place for a name.
* `Template.named_continuation_shown`: a checker that names its input in a continuation shows the
  name of a scratch file.
-/

namespace SyntaxWatch

namespace Path

variable {path : Text}

/-- An absolute path starts with a slash. -/
theorem exists_of_isAbsolute (absolute : isAbsolute path = true) :
    ∃ rest, path = '/' :: rest := by
  cases path with
  | nil => cases absolute
  | cons c rest =>
      obtain rfl : c = '/' := by simpa [isAbsolute] using absolute
      exact ⟨rest, rfl⟩

/-- An absolute path is not empty. -/
theorem ne_nil_of_isAbsolute (absolute : isAbsolute path = true) : path ≠ [] := by
  obtain ⟨rest, rfl⟩ := exists_of_isAbsolute absolute
  exact List.cons_ne_nil _ _

end Path

namespace Template

variable {input p q : Text} {t line : Template}

/-- A name that fits a template: the path of a file, on one line, that stands apart. -/
structure Fits (t : Template) (input : Text) : Prop where
  absolute : Path.isAbsolute input = true
  unbroken : '\n' ∉ input
  uncut : '\r' ∉ input
  apart : t.Apart input

instance (t : Template) (input : Text) : Decidable (t.Fits input) :=
  decidable_of_iff
    (Path.isAbsolute input = true ∧ '\n' ∉ input ∧ '\r' ∉ input ∧ t.Apart input)
    ⟨fun ⟨absolute, unbroken, uncut, apart⟩ => ⟨absolute, unbroken, uncut, apart⟩,
      fun h => ⟨h.absolute, h.unbroken, h.uncut, h.apart⟩⟩

/-- What a run leaves behind when its output is the template, filled with the name of its input. -/
def transcript (t : Template) (input : Text) : Transcript :=
  { output := t.fill input, input }

/-- A name that fits a template fits every part of it. -/
theorem Fits.part (h : t.Fits input) {part : Template} (inside : part <:+: t) : part.Fits input :=
  ⟨h.absolute, h.unbroken, h.uncut, h.apart.part (Path.ne_nil_of_isAbsolute h.absolute) inside⟩

/-! ### The lines of a template -/

/-- The lines of a template. -/
def lines (t : Template) : List Template :=
  t.splitOn (.char '\n')

/-- What stands before the first carriage return. -/
def beforeReturn (t : Template) : Template :=
  t.takeWhile (· ≠ .char '\r')

/-- The lines of a template that are looked at. -/
def keptLines (t : Template) (cap : Nat) : List Template :=
  ((t.lines.filter (· ≠ [])).map beforeReturn).take cap

/-- A character that is neither in the template nor in the name is not in the text they make. -/
theorem notMem_fill {c : Char} (hc : c ∉ input) (space : c ≠ ' ') (absent : .char c ∉ t) :
    c ∉ fill input t := by
  induction t with
  | nil => simp
  | cons piece t ih =>
      rw [List.mem_cons, not_or] at absent
      cases piece with
      | char d =>
          have other : c ≠ d := fun same => absent.1 (congrArg Piece.char same)
          simpa [other] using ih absent.2
      | name => simpa [fill_name, hc, space] using ih absent.2

/-- A name without a newline fills each line on its own. -/
theorem lines_fill (unbroken : '\n' ∉ input) (t : Template) :
    Text.lines (fill input t) = t.lines.map (fill input) := by
  induction t using Search.separated (Piece.char '\n') with
  | last front whole =>
      rw [Text.lines, lines, List.splitOn_eq_singleton whole,
        List.splitOn_eq_singleton (notMem_fill unbroken (by decide) whole), List.map_singleton]
  | broken front back whole ih =>
      rw [Text.lines, lines] at ih ⊢
      rw [fill_append, fill_char, List.splitOn_append_cons_self, List.splitOn_append_cons_self, ih,
        List.splitOn_eq_singleton whole,
        List.splitOn_eq_singleton (notMem_fill unbroken (by decide) whole), List.map_append,
        List.map_singleton]

/-- Every line of a template is a part of it. -/
theorem isInfix_of_mem_lines (h : line ∈ t.lines) : line <:+: t := by
  induction t using Search.separated (Piece.char '\n') with
  | last front whole =>
      rw [lines, List.splitOn_eq_singleton whole, List.mem_singleton] at h
      rw [h]
  | broken front back whole ih =>
      rw [lines, List.splitOn_append_cons_self, List.splitOn_eq_singleton whole,
        List.singleton_append, List.mem_cons] at h
      rcases h with rfl | h
      · exact (List.prefix_append _ _).isInfix
      · exact (ih h).trans ⟨front ++ [.char '\n'], [], by simp⟩

/-- A name without a carriage return is not cut. -/
theorem beforeReturn_fill (uncut : '\r' ∉ input) (t : Template) :
    Transcript.beforeReturn (fill input t) = fill input t.beforeReturn := by
  induction t using Search.separated (Piece.char '\r') with
  | last front whole =>
      rw [Transcript.beforeReturn, beforeReturn, Search.takeWhile_of_notMem whole,
        Search.takeWhile_of_notMem (notMem_fill uncut (by decide) whole)]
  | broken front back whole _ =>
      rw [Transcript.beforeReturn, beforeReturn, fill_append, fill_char,
        Search.takeWhile_append_cons_self, Search.takeWhile_append_cons_self,
        Search.takeWhile_of_notMem whole,
        Search.takeWhile_of_notMem (notMem_fill uncut (by decide) whole)]

/-- The lines that are kept of a filled template are those of the template, filled. -/
theorem keptLines_fill (h : t.Fits input) (cap : Nat) :
    Transcript.keptLines (fill input t) cap = (t.keptLines cap).map (fill input) := by
  have some : (fun text : Text => decide (text ≠ [])) ∘ fill input =
      fun line : Template => decide (line ≠ []) :=
    funext fun line => by simp only [Function.comp_apply, ne_eq, fill_eq_nil_iff]
  have cut : Transcript.beforeReturn ∘ fill input = fill input ∘ beforeReturn :=
    funext fun line => beforeReturn_fill h.uncut line
  rw [Transcript.keptLines, keptLines, lines_fill h.unbroken, List.filter_map, some, List.map_map,
    cut, ← List.map_map, List.map_take]

/-- The name fits each line that is looked at. -/
theorem Fits.of_mem_keptLines (h : t.Fits input) {cap : Nat} (kept : line ∈ t.keptLines cap) :
    line.Fits input := by
  obtain ⟨whole, hwhole, rfl⟩ := List.mem_map.1 (List.mem_of_mem_take kept)
  have front : whole.beforeReturn <:+: whole := (List.takeWhile_prefix _).isInfix
  exact h.part (front.trans (isInfix_of_mem_lines (List.mem_filter.1 hwhole).1))

/-! ### The complaints of a template -/

/-- Whether a line of a template continues the message of the line before it. -/
def isContinuation : Template → Bool
  | .char c :: _ => c == ' ' || c == '\t'
  | _ => false

/-- The complaint on a line of a template, with the line that continues it. -/
def complaint? (line : Template) (next : Option Template) : Option (Finding × Option Template) :=
  if .name ∈ line then (Finding.ofStripped? line.bare none).map (·, next) else none

/-- The complaints on lines of a template. -/
def complaints : List Template → List (Finding × Option Template)
  | [] => []
  | line :: rest => (complaint? line (rest.head?.filter isContinuation)).toList ++ complaints rest

/-- A complaint with the line that continues it filled in. -/
def continued (input : Text) : Finding × Option Template → Finding
  | (f, next) => { f with
      message := Finding.extended f.message (next.map (fill input))
      continued := next.isSome }

/-- The lines of a template that continue complaints. -/
def continuations (t : Template) (cap : Nat) : List Template :=
  (complaints (t.keptLines cap)).filterMap (·.2)

/-- A line that begins with a name continues nothing, since a path begins with a slash. -/
theorem isContinuation_fill (absolute : Path.isAbsolute input = true) (line : Template) :
    Finding.isContinuation (fill input line) = line.isContinuation := by
  obtain ⟨rest, rfl⟩ := Path.exists_of_isAbsolute absolute
  cases line with
  | nil => rfl
  | cons piece line => cases piece <;> rfl

/-- What a filled line states depends on the name only through its continuation. -/
theorem ofLine?_fill_next (h : line.Fits input) (next : Option Template) :
    Finding.ofLine? input (fill input line) (next.map (fill input)) =
      (complaint? line next).map (continued input) := by
  rw [ofLine?_fill (Path.ne_nil_of_isAbsolute h.absolute) h.apart, complaint?]
  split
  · rw [Finding.ofStripped?, Finding.ofStripped?, Option.map_map, Option.map_map]
    refine congrArg (Option.map · _) (funext fun refers => ?_)
    simp [continued, Finding.extended]
  · rfl

/-- Filled lines state what the lines of the template state, each with its continuation filled. -/
theorem ofLines_fill {lines : List Template} (fits : ∀ line ∈ lines, line.Fits input) :
    Finding.ofLines input (lines.map (fill input)) = (complaints lines).map (continued input) := by
  induction lines with
  | nil => rfl
  | cons line rest ih =>
      obtain ⟨first, later⟩ := List.forall_mem_cons.1 fits
      have next : (rest.map (fill input)).head?.filter Finding.isContinuation =
          (rest.head?.filter isContinuation).map (fill input) := by
        rw [List.head?_map, Option.filter_map]
        refine congrArg (Option.map _) (congrArg (Option.filter · _) (funext fun line => ?_))
        exact isContinuation_fill first.absolute line
      rw [List.map_cons, Finding.ofLines, next, ofLine?_fill_next first, ih later, complaints,
        List.map_append, Option.toList_map]

/-- The complaints of a filled template are those of the template, whatever the name is. -/
theorem findings_fill (h : t.Fits input) (cap : Nat) :
    (t.transcript input).findings cap = (complaints (t.keptLines cap)).map (continued input) := by
  rw [Transcript.findings, transcript, keptLines_fill h,
    ofLines_fill fun line kept => h.of_mem_keptLines kept]

/-! ### Two names -/

/-- A template without a place for the name is the same text for every name. -/
theorem fill_of_unnamed (h : .name ∉ t) : fill input t = bare t := by
  induction t with
  | nil => rfl
  | cons piece t ih =>
      rw [List.mem_cons, not_or] at h
      cases piece with
      | char c => rw [fill_char, bare_char, ih h.2]
      | name => exact absurd rfl h.1

/-- Each place of the name adds the name and the space after it. -/
theorem length_fill (input : Text) (t : Template) :
    (fill input t).length = t.bare.length + t.count .name * (input.length + 1) := by
  induction t with
  | nil => simp [bare]
  | cons piece t ih =>
      cases piece with
      | char c => simp [ih]; omega
      | name =>
          rw [fill_name, bare_name, List.count_cons_self, Nat.succ_mul]
          simp only [List.length_append, List.length_singleton, ih]
          omega

/-- Two names fill a template with the same text only if they are one, or have no place. -/
theorem fill_eq_fill_iff : fill p t = fill q t ↔ p = q ∨ .name ∉ t := by
  constructor
  · refine fun same => or_iff_not_imp_right.2 fun place => ?_
    rw [not_not] at place
    have lengths := congrArg List.length same
    rw [length_fill, length_fill, Nat.add_left_cancel_iff,
      Nat.mul_right_inj (Nat.pos_iff_ne_zero.1 (List.count_pos_iff.2 place))] at lengths
    -- Behind the first place the names stand side by side, and they have one length.
    obtain ⟨before, after, rfl, first⟩ := List.eq_append_cons_of_mem place
    rw [fill_append, fill_append, fill_of_unnamed first, fill_of_unnamed first,
      List.append_cancel_left_eq, fill_name, fill_name, List.append_assoc,
      List.append_assoc] at same
    exact (List.append_inj same (Nat.succ.inj lengths)).1
  · rintro (rfl | unnamed)
    · rfl
    · rw [fill_of_unnamed unnamed, fill_of_unnamed unnamed]

/-- Whether a piece is blank. A name is not. -/
def isBlank : Piece → Bool
  | .char c => Text.isBlank c
  | .name => false

/-- The name of a file is not blank, so that trimming takes only the blanks of the template. -/
theorem trimStart_fill (absolute : Path.isAbsolute input = true) (t : Template) :
    Text.trimStart (fill input t) = fill input (t.dropWhile isBlank) := by
  induction t with
  | nil => rfl
  | cons piece t ih =>
      cases piece with
      | char c =>
          rw [fill_char, Text.trimStart, List.dropWhile_cons, List.dropWhile_cons, isBlank]
          split
          · exact ih
          · rfl
      | name =>
          obtain ⟨rest, rfl⟩ := Path.exists_of_isAbsolute absolute
          rfl

/-- Trimming takes no place of the name. -/
theorem name_mem_dropWhile_isBlank : .name ∈ t.dropWhile isBlank ↔ .name ∈ t := by
  induction t with
  | nil => rfl
  | cons piece t ih =>
      cases piece with
      | char c =>
          rw [List.dropWhile_cons]
          split
          · simp [ih]
          · rfl
      | name => rfl

/-- Two names give a line the same front without blanks only if they are one, or have no place. -/
theorem trimStart_fill_eq_iff (hp : Path.isAbsolute p = true) (hq : Path.isAbsolute q = true) :
    Text.trimStart (fill p t) = Text.trimStart (fill q t) ↔ p = q ∨ .name ∉ t := by
  rw [trimStart_fill hp, trimStart_fill hq, fill_eq_fill_iff, name_mem_dropWhile_isBlank]

/-- A message with its continuation is the same for two names exactly when the continuation has no
place for a name. -/
theorem continued_eq_iff (hp : Path.isAbsolute p = true) (hq : Path.isAbsolute q = true)
    (c : Finding × Option Template) :
    Diagnostic.ofFinding (continued p c) = Diagnostic.ofFinding (continued q c) ↔
      p = q ∨ ∀ next ∈ c.2, .name ∉ next := by
  obtain ⟨f, next⟩ := c
  cases next with
  | none => simp [continued]
  | some next =>
      simp [Diagnostic.ofFinding, continued, Finding.extended, trimStart_fill_eq_iff hp hq]

/-- **The name of the input is seen in continuations and nowhere else.** Whatever two names fill a
template with, the diagnostics have the same lines, severities and highlights, in the same order.
They are the same diagnostics exactly when the names are one or no line that continues a complaint
has a place for a name. -/
theorem diagnose_fill_eq_iff (hp : t.Fits p) (hq : t.Fits q) (text : Text) (cap : Nat) :
    ((t.transcript p).diagnose text cap).map Diagnostic.unworded =
        ((t.transcript q).diagnose text cap).map Diagnostic.unworded ∧
      ((t.transcript p).diagnose text cap = (t.transcript q).diagnose text cap ↔
        p = q ∨ ∀ next ∈ t.continuations cap, .name ∉ next) := by
  rw [Transcript.diagnose, Transcript.diagnose, findings_fill hp, findings_fill hq]
  constructor
  · rw [Diagnostic.map_unworded_reconcile, Diagnostic.map_unworded_reconcile]
    simp only [List.map_map]
    rfl
  · rw [Diagnostic.reconcile_eq_reconcile_iff]
    simp only [List.map_map, List.map_inj_left, Function.comp_apply, implies_true, and_true,
      continued_eq_iff hp.absolute hq.absolute]
    by_cases same : p = q
    · simp [same]
    · simp only [same, false_or, continuations, List.mem_filterMap]
      exact ⟨fun none next ⟨c, hc, at_⟩ => none c hc next at_,
        fun none c hc next at_ => none next ⟨c, hc, at_⟩⟩

/-- What a checker prints that names its input in a complaint, and in the line that continues it. -/
def namedContinuation : Template :=
  ofText "bad at ".toList ++ .name :: ofText "line 1.\n\tnear ".toList ++
    .name :: ofText "here\n".toList

/-- What a checker prints that names its input in complaints only. -/
def namedComplaint : Template :=
  ofText "bad at ".toList ++ .name :: ofText "line 1.\n\tnear here\n".toList

/-- Two names of different lengths leave a complaint the same when only its first line names the
input. -/
theorem diagnose_namedComplaint :
    (namedComplaint.transcript "/tmp/a".toList).diagnose "x\n".toList 10 =
      (namedComplaint.transcript "/tmp/bc".toList).diagnose "x\n".toList 10 :=
  (diagnose_fill_eq_iff (by decide) (by decide) _ _).2.2 (.inr (by decide))

/-- The name of a scratch file is shown when the checker prints it in a continuation. -/
theorem named_continuation_shown :
    namedContinuation.Fits "/tmp/a".toList ∧ namedContinuation.Fits "/tmp/bc".toList ∧
      ((namedContinuation.transcript "/tmp/a".toList).diagnose "x\n".toList 10).map
          Diagnostic.message = ["bad at line 1. near /tmp/a here".toList] ∧
      ((namedContinuation.transcript "/tmp/bc".toList).diagnose "x\n".toList 10).map
          Diagnostic.message = ["bad at line 1. near /tmp/bc here".toList] :=
  ⟨by decide, by decide, by decide, by decide⟩

end Template

end SyntaxWatch
