import SyntaxWatch.Highlight
import SyntaxWatch.Proofs.Text.Boundary
import SyntaxWatch.Proofs.Text.Replacement

/-!
# A text around one of its lines

The lines above another one are each ended by a newline (`Text.ended`), and the lines below it are
each begun by one (`Text.begun`), so a text is put together from the lines above, the line and the
lines below (`Text.eq_of_lines`). A line is sought by counting newlines from the front, and
what is found is where this decomposition says the line is (`Text.seekLine_of_lines`); a line is
found exactly when the text has one of that number (`Text.seekLine_of_lineCount_lt`).
-/

namespace SyntaxWatch.Text

variable {text front content : Text} {above below : List Text}

/-- Lines above another one: a newline ends each of them. -/
def ended (lines : List Text) : Text :=
  lines.flatMap (· ++ ['\n'])

/-- Lines below another one: a newline begins each of them. -/
def begun (lines : List Text) : Text :=
  lines.flatMap ('\n' :: ·)

@[simp] theorem ended_nil : ended [] = [] := rfl

@[simp] theorem ended_cons (line : Text) (lines : List Text) :
    ended (line :: lines) = line ++ '\n' :: ended lines := by
  simp [ended]

@[simp] theorem ended_append (first second : List Text) :
    ended (first ++ second) = ended first ++ ended second := by
  simp [ended]

@[simp] theorem begun_nil : begun [] = [] := rfl

@[simp] theorem begun_cons (line : Text) (lines : List Text) :
    begun (line :: lines) = '\n' :: (line ++ begun lines) := by
  simp [begun]

@[simp] theorem begun_append (first second : List Text) :
    begun (first ++ second) = begun first ++ begun second := by
  simp [begun]

/-- Between lines it makes no difference which of them has the newline. -/
theorem begun_append_newline (lines : List Text) (rest : Text) :
    begun lines ++ '\n' :: rest = '\n' :: (ended lines ++ rest) := by
  induction lines with
  | nil => rfl
  | cons line lines ih => simp [ih]

/-! ### The lines of a text -/

/-- A text without a newline is one line. -/
theorem lines_of_notMem (whole : '\n' ∉ front) : lines front = [front] :=
  List.splitOn_eq_singleton whole

/-- The first newline ends the first line, and the other lines are those of what follows. -/
theorem lines_append_cons (whole : '\n' ∉ front) (back : Text) :
    lines (front ++ '\n' :: back) = front :: lines back := by
  rw [lines, lines, List.splitOn_append_cons_self, List.splitOn_eq_singleton whole,
    List.singleton_append]

/-- No line has a newline in it. -/
theorem newline_notMem_of_mem_lines (h : content ∈ text.lines) : '\n' ∉ content := by
  induction text using Search.separated '\n' with
  | last front whole =>
      rw [lines_of_notMem whole, List.mem_singleton] at h
      rwa [h]
  | broken front back whole ih =>
      rw [lines_append_cons whole, List.mem_cons] at h
      rcases h with rfl | h
      · exact whole
      · exact ih h

/-- The lines above a line have no newline in them. -/
theorem newline_notMem_above (h : text.lines = above ++ content :: below) :
    ∀ line ∈ above, '\n' ∉ line := fun _ mem =>
  newline_notMem_of_mem_lines (h ▸ List.mem_append_left _ mem)

/-- There are as many lines as are counted. -/
theorem length_lines (text : Text) : text.lines.length = text.lineCount := by
  induction text using Search.separated '\n' with
  | last front whole => simp [lines_of_notMem whole, lineCount, List.count_eq_zero.2 whole]
  | broken front back whole ih =>
      rw [lines_append_cons whole, List.length_cons, ih]
      simp [lineCount, List.count_eq_zero.2 whole]

/-- With a newline in front of it, a text is its lines, each begun by one. -/
theorem begun_lines (text : Text) : begun text.lines = '\n' :: text := by
  induction text using Search.separated '\n' with
  | last front whole => simp [lines_of_notMem whole]
  | broken front back whole ih => simp [lines_append_cons whole, ih]

/-- A text is put together around each of its lines. -/
theorem eq_of_lines (h : text.lines = above ++ content :: below) :
    text = ended above ++ content ++ begun below := by
  have whole : '\n' :: text = '\n' :: (ended above ++ (content ++ begun below)) := by
    rw [← begun_lines, h, begun_append, begun_cons, begun_append_newline]
  rw [List.append_assoc]
  exact (List.cons_eq_cons.1 whole).2

/-- A text has a line of each number from one up to the count of its lines. -/
theorem exists_lines_iff {line : Nat} :
    (∃ above content below, text.lines = above ++ content :: below ∧ line = above.length + 1) ↔
      1 ≤ line ∧ line ≤ text.lineCount := by
  rw [← length_lines]
  constructor
  · rintro ⟨above, content, below, split, rfl⟩
    simp [split]
  · rintro ⟨first, last⟩
    have inside : line - 1 < text.lines.length := by omega
    refine ⟨text.lines.take (line - 1), text.lines[line - 1], text.lines.drop (line - 1 + 1),
      ?_, ?_⟩
    · rw [← List.drop_eq_getElem_cons, List.take_append_drop]
    · rw [List.length_take]
      omega

/-! ### Seeking a line -/

/-- A line that is skipped takes its bytes and one for its newline. -/
theorem skipLines_append_cons (whole : '\n' ∉ front) (n : Nat) (rest : Text) :
    skipLines (n + 1) (front ++ '\n' :: rest) =
      (skipLines n rest).map fun found => (bytes front + 1 + found.1, found.2) := by
  induction front with
  | nil =>
      rw [List.nil_append, skipLines, if_pos rfl, bytes_nil, Nat.zero_add]
      rfl
  | cons c front ih =>
      obtain ⟨other, whole⟩ := not_or.1 (mt List.mem_cons.2 whole)
      rw [List.cons_append, skipLines, if_neg (Ne.symm other), ih whole, Option.map_map]
      refine congrArg (Option.map · _) (funext fun found => ?_)
      simp only [Function.comp_apply, bytes_cons, Nat.add_assoc]

/-- Skipping the lines above a line leads to its start, as many bytes on as they have with their
newlines. -/
theorem skipLines_ended (whole : ∀ line ∈ above, '\n' ∉ line) (rest : Text) :
    skipLines above.length (ended above ++ rest) = some (bytes (ended above), rest) := by
  induction above with
  | nil => cases rest <;> rfl
  | cons line above ih =>
      obtain ⟨first, others⟩ := List.forall_mem_cons.1 whole
      have newline : Char.utf8Size '\n' = 1 := rfl
      rw [List.length_cons, ended_cons, List.append_assoc, List.cons_append,
        skipLines_append_cons first, ih others, bytes_append, bytes_cons, newline, ← Nat.add_assoc]
      rfl

/-- A line is found behind the lines above it. -/
theorem seekLine_of_lines (h : text.lines = above ++ content :: below) :
    seekLine text (above.length + 1) = .ok (bytes (ended above), content ++ begun below) := by
  have found := skipLines_ended (newline_notMem_above h) (content ++ begun below)
  rw [← List.append_assoc, ← eq_of_lines h] at found
  rw [seekLine, found]

/-- There is no line with the number zero. -/
theorem seekLine_zero (text : Text) : seekLine text 0 = .error .zero := rfl

/-- Past the last line there is none. -/
theorem seekLine_of_lineCount_lt {line : Nat} (past : text.lineCount < line) :
    seekLine text line = .error (.outOfRange line text.lineCount) := by
  obtain ⟨n, rfl⟩ : ∃ n, line = n + 1 := ⟨line - 1, by omega⟩
  have none : skipLines n text = none := by
    rw [← Option.not_isSome_iff_eq_none, skipLines_isSome_iff]
    rw [lineCount] at past
    omega
  rw [seekLine, none]

/-- A number is that of a line, or seeking it fails. -/
theorem lines_or_fault (text : Text) (line : Nat) :
    (∃ above content below, text.lines = above ++ content :: below ∧ line = above.length + 1) ∨
      ∃ fault, seekLine text line = .error fault := by
  rcases Nat.eq_zero_or_pos line with rfl | first
  · exact .inr ⟨_, seekLine_zero text⟩
  · rcases Nat.lt_or_ge text.lineCount line with past | last
    · exact .inr ⟨_, seekLine_of_lineCount_lt past⟩
    · exact .inl (exists_lines_iff.2 ⟨first, last⟩)

/-- A line that is there starts behind the lines above it. -/
theorem lineStart_of_lines (h : text.lines = above ++ content :: below) :
    text.lineStart (above.length + 1) = .ok (bytes (ended above)) := by
  rw [lineStart, seekLine_of_lines h]
  rfl

/-- A line that cannot be sought has no start, for the same reason. -/
theorem lineStart_of_error {line : Nat} {fault : LineError}
    (h : seekLine text line = .error fault) : text.lineStart line = .error fault := by
  rw [lineStart, h]
  rfl

/-- A line starts behind the lines above it. -/
theorem lineStart_eq_ok_iff {line offset : Nat} :
    text.lineStart line = .ok offset ↔
      ∃ above content below, text.lines = above ++ content :: below ∧ line = above.length + 1 ∧
        offset = bytes (ended above) := by
  constructor
  · intro h
    rcases lines_or_fault text line with ⟨above, content, below, split, rfl⟩ | ⟨fault, failed⟩
    · rw [lineStart_of_lines split] at h
      exact ⟨above, content, below, split, rfl, (Except.ok.inj h).symm⟩
    · rw [lineStart_of_error failed] at h
      cases h
  · rintro ⟨above, content, below, split, rfl, rfl⟩
    exact lineStart_of_lines split

/-- A line has a start exactly when its number is one of the text. -/
theorem exists_lineStart_iff {line : Nat} :
    (∃ offset, text.lineStart line = .ok offset) ↔ 1 ≤ line ∧ line ≤ text.lineCount := by
  rw [← exists_lines_iff]
  constructor
  · rintro ⟨offset, found⟩
    obtain ⟨above, content, below, split, number, -⟩ := lineStart_eq_ok_iff.1 found
    exact ⟨above, content, below, split, number⟩
  · rintro ⟨above, content, below, split, rfl⟩
    exact ⟨_, lineStart_of_lines split⟩

end SyntaxWatch.Text
