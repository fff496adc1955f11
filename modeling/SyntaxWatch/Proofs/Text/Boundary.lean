import Mathlib.Data.List.Infix
import SyntaxWatch.Text.Basic

/-!
# Byte offsets between characters

A byte offset into a text is of use only when it falls between two characters (`Text.IsBoundary`).
Such an offset is the length of a front of the text, and there is only one front of that length, so
what is said about offsets can be said about fronts: cuts and parts of a text are the ways in
which it is put together (`Text.cut?_eq_some_iff`, `Text.slice?_eq_some_iff`), and a front of no
more bytes than another one is a front of it (`Text.prefix_of_bytes_le`).
-/

namespace SyntaxWatch.Text

variable {text before after inside front back : Text} {offset start stop : Nat}

/-- A byte offset falls between two characters of a text or is at one of its ends. -/
def IsBoundary (text : Text) (offset : Nat) : Prop :=
  ∃ front, front <+: text ∧ bytes front = offset

/-- Only the empty text has no bytes, since every character has at least one. -/
theorem bytes_eq_zero_iff : bytes text = 0 ↔ text = [] := by
  cases text with
  | nil => simp
  | cons c rest =>
      have pos : 0 < c.utf8Size := c.utf8Size_pos
      simp only [bytes_cons, reduceCtorEq, iff_false]
      omega

/-- A front of a text has no more bytes than the text. -/
theorem bytes_le_bytes (h : front <+: text) : bytes front ≤ bytes text := by
  obtain ⟨rest, rfl⟩ := h
  simp

/-- Of two fronts of a text, the one with no more bytes is a front of the other. -/
theorem prefix_of_bytes_le (h : front <+: text) (h' : back <+: text)
    (le : bytes front ≤ bytes back) : front <+: back := by
  rcases List.prefix_or_prefix_of_prefix h h' with shorter | ⟨rest, rfl⟩
  · exact shorter
  · rw [bytes_append] at le
    obtain rfl : rest = [] := bytes_eq_zero_iff.1 (by omega)
    rw [List.append_nil]

/-- There is one front of each length. -/
theorem eq_of_bytes_eq (h : front <+: text) (h' : back <+: text)
    (same : bytes front = bytes back) : front = back :=
  (prefix_of_bytes_le h h' (Nat.le_of_eq same)).eq_of_length_le
    (prefix_of_bytes_le h' h (Nat.le_of_eq same.symm)).length_le

/-- No boundary is past the end of the text. -/
theorem IsBoundary.le_bytes (h : text.IsBoundary offset) : offset ≤ bytes text := by
  obtain ⟨front, leads, rfl⟩ := h
  exact bytes_le_bytes leads

/-! ### Cuts -/

/-- A cut at an offset is the way to put the text together from a front of that length. -/
theorem cut?_eq_some_iff :
    cut? text offset = some (before, after) ↔ text = before ++ after ∧ bytes before = offset := by
  constructor
  · exact eq_append_of_cut?
  · rintro ⟨rfl, rfl⟩
    exact cut?_append before after

/-- A text can be cut at its boundaries, and nowhere else. -/
theorem isSome_cut?_iff : (cut? text offset).isSome = true ↔ text.IsBoundary offset := by
  rw [Option.isSome_iff_exists]
  constructor
  · rintro ⟨⟨before, after⟩, found⟩
    obtain ⟨whole, length⟩ := cut?_eq_some_iff.1 found
    exact ⟨before, ⟨after, whole.symm⟩, length⟩
  · rintro ⟨front, ⟨rest, whole⟩, length⟩
    exact ⟨(front, rest), cut?_eq_some_iff.2 ⟨whole.symm, length⟩⟩

/-- A cut behind a front is a cut in what follows it. -/
theorem cut?_append_add (front rest : Text) (k : Nat) :
    cut? (front ++ rest) (bytes front + k) =
      (cut? rest k).map fun (before, after) => (front ++ before, after) := by
  induction front with
  | nil => simp
  | cons c front ih =>
      have pos : 0 < c.utf8Size := c.utf8Size_pos
      obtain ⟨n, hn⟩ : ∃ n, c.utf8Size + bytes front + k = n + 1 :=
        ⟨c.utf8Size + bytes front + k - 1, by omega⟩
      have fits : c.utf8Size ≤ n + 1 := by omega
      have left : n + 1 - c.utf8Size = bytes front + k := by omega
      rw [List.cons_append, bytes_cons, hn, cut?, if_pos fits, left, ih, Option.map_map]
      rfl

/-! ### Parts -/

/-- A part is found between its offsets, whatever is around it. -/
theorem slice?_append (before inside after : Text) :
    slice? (before ++ inside ++ after) (bytes before) (bytes (before ++ inside)) = some inside := by
  have behind : bytes (before ++ inside) - bytes before = bytes inside := by simp
  rw [slice?, if_pos (by simp), List.append_assoc, cut?_append, behind]
  simp only [Option.bind_eq_bind, Option.bind_some, cut?_append, Option.pure_def]

/-- A part between two offsets is the middle of the text when it is put together around fronts of
these lengths. -/
theorem slice?_eq_some_iff :
    slice? text start stop = some inside ↔
      ∃ before after, text = before ++ inside ++ after ∧ bytes before = start ∧
        bytes (before ++ inside) = stop := by
  constructor
  · intro found
    rw [slice?] at found
    split at found
    · next ordered =>
        simp only [Option.bind_eq_bind, Option.bind_eq_some_iff, Option.pure_def,
          Option.some.injEq] at found
        obtain ⟨⟨before, rest⟩, first, ⟨inside', after⟩, second, rfl⟩ := found
        obtain ⟨rfl, rfl⟩ := cut?_eq_some_iff.1 first
        obtain ⟨rfl, length⟩ := cut?_eq_some_iff.1 second
        refine ⟨before, after, by rw [List.append_assoc], rfl, ?_⟩
        rw [bytes_append, length]
        omega
    · cases found
  · rintro ⟨before, after, rfl, rfl, rfl⟩
    exact slice?_append before inside after

/-- The two ends of a part fall between characters. -/
theorem isBoundary_of_slice? (h : slice? text start stop = some inside) :
    text.IsBoundary start ∧ text.IsBoundary stop := by
  obtain ⟨before, after, rfl, rfl, rfl⟩ := slice?_eq_some_iff.1 h
  exact ⟨⟨before, by simp, rfl⟩, ⟨before ++ inside, List.prefix_append _ _, rfl⟩⟩

end SyntaxWatch.Text
