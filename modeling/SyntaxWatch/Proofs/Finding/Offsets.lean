import SyntaxWatch.Proofs.Finding.Grammar
import SyntaxWatch.Proofs.Text.Boundary

/-!
# Reading by byte offsets

A line is searched five times on the way to its complaint, and what the searches find are byte
offsets into different texts: the line without the name, the clause up to a space, the sentence up
to a full stop. This module reads a line in that way (`Finding.scan`). A part of a text that is
taken for granted has to be there, so an offset past the end or inside a character is a fault
(`BadSlice`); only the search for the space may start inside a character, and then it finds none.

## Main results

* `Finding.clause_eq`, `Finding.sentenceEnd_eq`: what the searches behind the marker find.
* `Finding.scan_eq`: no offset is bad, and the complaint is the one of `Finding.ofLine?`.
* `Finding.grammar_of_complaints`: reading, by characters or by offsets, follows the grammar.
-/

namespace SyntaxWatch

/-- A part of a text that was taken for granted and is not there: its bounds are out of order, past
the end or inside a character. -/
structure BadSlice where
  text : Text
  start : Nat
  stop : Nat

/-- A step that succeeds hands its value to the next. -/
theorem ok_bind {ε α β : Type} (a : α) (next : α → Except ε β) :
    (Except.ok a >>= next) = next a := rfl

namespace Text

/-- The part of a text between two byte offsets, which is taken for granted. -/
def part (text : Text) (start stop : Nat) : Except BadSlice Text :=
  match text.slice? start stop with
  | some inside => .ok inside
  | none => .error { text, start, stop }

/-- The byte offset at which a pattern occurs first. -/
def offset? (pat text : Text) : Option Nat :=
  (Search.around? pat text).map fun (before, _) => bytes before

/-- A digit takes one byte. -/
theorem utf8Size_of_isDigit {c : Char} (h : c.isDigit = true) : c.utf8Size = 1 := by
  have small : c.val ≤ 57 := by simpa [Char.isDigit] using (Bool.and_eq_true_iff.1 h).2
  rw [Char.utf8Size, if_pos (UInt32.le_trans small (by decide))]

/-! ### Parts between characters -/

/-- Offsets between characters bound a part. -/
theorem part_append (before inside after : Text) :
    part (before ++ inside ++ after) (bytes before) (bytes (before ++ inside)) = .ok inside := by
  rw [part, slice?_append]

/-- The offset behind a front bounds the front. -/
theorem part_front (front after : Text) : part (front ++ after) 0 (bytes front) = .ok front :=
  part_append [] front after

/-- The offset behind a front bounds what remains. -/
theorem part_back (front back : Text) :
    part (front ++ back) (bytes front) (bytes (front ++ back)) = .ok back := by
  simpa using part_append front back []

/-- The text from the second byte behind a front: there is none when the character there takes
more than one byte. -/
theorem slice?_second (front : Text) (c : Char) (more : Text) :
    slice? (front ++ c :: more) (bytes front + 1) (bytes (front ++ c :: more)) =
      if c.utf8Size = 1 then some more else none := by
  have pos : 0 < c.utf8Size := c.utf8Size_pos
  split
  · next single =>
      have whole := slice?_append (front ++ [c]) more []
      simpa [single] using whole
  · next wide =>
      have past : ¬ c.utf8Size ≤ 0 + 1 := by omega
      have none : cut? (front ++ c :: more) (bytes front + 1) = none := by
        rw [cut?_append_add, cut?, if_neg past, Option.map_none]
      rw [slice?, none]
      split <;> rfl

/-- Searching for one character as a pattern finds what comes before that character. -/
theorem before_singleton (c : Char) (text : Text) :
    (Search.around? [c] text).map (fun (before, _) => before) = Finding.upTo? c text := by
  induction text with
  | nil => rfl
  | cons x tail ih =>
      by_cases here : c = x
      · subst here
        simp [Search.around?, Search.after?, Finding.upTo?_cons_self]
      · have passed : c ∉ [x] := by simpa using here
        have later : Finding.upTo? c (x :: tail) = (Finding.upTo? c tail).map (x :: ·) :=
          Finding.upTo?_append passed tail
        have found : Search.around? [c] (x :: tail) =
            (Search.around? [c] tail).map fun (before, rest) => (x :: before, rest) := by
          simp [Search.around?, Search.after?, here]
        rw [found, later, ← ih, Option.map_map, Option.map_map]
        rfl

/-- The offset of a character is the length of what stands before it. -/
theorem offset?_singleton (c : Char) (text : Text) :
    offset? [c] text = (Finding.upTo? c text).map bytes := by
  rw [← before_singleton, Option.map_map]
  rfl

end Text

namespace Finding

/-! ### The searches behind the marker -/

/-- A line up to the first space behind its marker. The space is searched from the second byte
there, and without one the whole line is taken. -/
def clause (stripped : Text) (digits : Nat) : Except BadSlice Text :=
  match (stripped.slice? (digits + 1) stripped.bytes).bind (Text.offset? [' ']) with
  | some room => stripped.part 0 (digits + 1 + room)
  | none => .ok stripped

/-- The offset of the first full stop from the marker on, or else of the first comma. -/
def sentenceEnd (clause : Text) (start : Nat) : Except BadSlice (Option Nat) := do
  let tail ← clause.part start clause.bytes
  return ((Text.offset? ['.'] tail).or (Text.offset? [','] tail)).map (start + ·)

/-- The complaint on a line without the name of the input, by offsets. -/
def scanStripped (stripped : Text) (continuation : Option Text) :
    Except BadSlice (Option Finding) := do
  match Text.offset? marker stripped with
  | none => return none
  | some start =>
    let digits := start + marker.bytes
    let clause ← clause stripped digits
    match ← sentenceEnd clause start with
    | none => return none
    | some stop =>
      match Decimal.read? (← clause.part digits stop) with
      | none => return none
      | some line =>
        return some {
          line
          message := extended stripped continuation
          summary := ← clause.part 0 stop
          continued := continuation.isSome }

/-- The complaint on a line, by offsets. -/
def scan (input line : Text) (continuation : Option Text) : Except BadSlice (Option Finding) :=
  if input = [] ∨ Search.occurs input line = false then
    .ok none
  else
    scanStripped (Search.replace (input ++ [' ']) [] line) continuation

/-- What the search for a space leaves of the text behind the marker. It passes over a space that
stands there first, and finds no space behind a character of more than one byte. -/
def cutBehind : Text → Text
  | [] => []
  | c :: more => if c.utf8Size = 1 then c :: more.takeWhile (· ≠ ' ') else c :: more

/-- The clause has the text up to the number and what the search for a space leaves. -/
theorem clause_eq (front rest : Text) :
    clause (front ++ rest) front.bytes = .ok (front ++ cutBehind rest) := by
  cases rest with
  | nil =>
      have none :
          Text.slice? (front ++ []) (front.bytes + 1) (Text.bytes (front ++ [])) = none := by
        rw [Text.slice?, if_neg (by simp)]
      rw [clause, none]
      rfl
  | cons c more =>
      rw [clause, Text.slice?_second, cutBehind]
      by_cases single : c.utf8Size = 1
      · rw [if_pos single, if_pos single, Option.bind_some, Text.offset?_singleton]
        by_cases room : ' ' ∈ more
        · obtain ⟨word, behind, rfl, passed⟩ := List.eq_append_cons_of_mem room
          have offset : front.bytes + 1 + Text.bytes word = Text.bytes (front ++ c :: word) := by
            rw [Text.bytes_append, Text.bytes_cons, single, Nat.add_assoc]
          have whole : front ++ c :: (word ++ ' ' :: behind) =
              (front ++ c :: word) ++ ' ' :: behind := by simp
          rw [upTo?_append passed, upTo?_cons_self, Option.map_some, Option.map_some,
            List.append_nil, Search.takeWhile_append_cons_self, Search.takeWhile_of_notMem passed]
          show Text.part _ 0 _ = _
          rw [offset, whole, Text.part_front]
        · rw [upTo?_eq_none_iff.2 room, Search.takeWhile_of_notMem room]
          rfl
      · rw [if_neg single, if_neg single]
        rfl

/-- A word that begins with neither a digit nor a plus sign has no number. -/
theorem numbered?_cons_eq_none {c : Char} (digit : c.isDigit = false) (sign : c ≠ '+')
    (more : Text) : numbered? (c :: more) = none := by
  refine Option.eq_none_iff_forall_ne_some.2 fun ⟨number, n⟩ h => ?_
  obtain ⟨⟨ending, word, -⟩, numeral, -⟩ := numbered?_eq_some_iff.1 h
  obtain ⟨first, rest, rfl, -⟩ := numeral.eq_cons
  obtain ⟨rfl, -⟩ := List.cons_eq_cons.1 word
  exact numeral.notMem digit sign List.mem_cons_self

/-- Where the search for a space goes wrong there is no number anyway. -/
theorem numbered?_cutBehind (rest : Text) :
    numbered? (cutBehind rest) = numbered? (rest.takeWhile (· ≠ ' ')) := by
  cases rest with
  | nil => rfl
  | cons c more =>
      rw [cutBehind]
      split
      · by_cases space : c = ' '
        · subst space
          rw [numbered?_cons_eq_none (by decide) (by decide)]
          rfl
        · rw [List.takeWhile_cons_of_pos (by simpa using space)]
      · next wide =>
          have narrow : ∀ d : Char, d.utf8Size = 1 → c ≠ d := fun d hd same => wide (same ▸ hd)
          have digit : c.isDigit = false := by
            rw [← Bool.not_eq_true]
            exact fun h => wide (Text.utf8Size_of_isDigit h)
          have space : c ≠ ' ' := narrow ' ' (by decide)
          rw [List.takeWhile_cons_of_pos (by simpa using space),
            numbered?_cons_eq_none digit (narrow '+' (by decide)),
            numbered?_cons_eq_none digit (narrow '+' (by decide))]

/-- What is found as the spelling of a number has something behind it. -/
theorem exists_of_number? {word number : Text} (h : number? word = some number) :
    ∃ more, word = number ++ more := by
  rw [number?] at h
  cases stopped : upTo? '.' word with
  | some front =>
      rw [stopped] at h
      cases h
      obtain ⟨more, split, -⟩ := exists_of_upTo? stopped
      exact ⟨_, split⟩
  | none =>
      rw [stopped] at h
      obtain ⟨more, split, -⟩ := exists_of_upTo? h
      exact ⟨_, split⟩

/-- The sentence ends behind the spelling of the number. -/
theorem sentenceEnd_eq (before word : Text) :
    sentenceEnd (before ++ marker ++ word) before.bytes =
      .ok ((number? word).map fun number => Text.bytes (before ++ marker ++ number)) := by
  have stop : '.' ∉ marker := by decide
  have comma : ',' ∉ marker := by decide
  rw [sentenceEnd, List.append_assoc, Text.part_back, ok_bind, Text.offset?_singleton,
    Text.offset?_singleton, upTo?_append stop, upTo?_append comma, number?]
  cases upTo? '.' word with
  | some front => simp [pure, Except.pure]
  | none => cases upTo? ',' word <;> simp [pure, Except.pure]

/-! ### Whole lines -/

/-- Reading a line by byte offsets never fails, and gives what reading it by characters gives. -/
theorem scanStripped_eq (stripped : Text) (continuation : Option Text) :
    scanStripped stripped continuation = .ok (ofStripped? stripped continuation) := by
  rw [scanStripped, ofStripped?, reference?, Text.offset?]
  cases found : Search.around? marker stripped with
  | none => rfl
  | some parts =>
      obtain ⟨before, rest⟩ := parts
      obtain rfl := Search.eq_of_around? found
      have cut := clause_eq (before ++ marker) rest
      rw [Text.bytes_append] at cut
      simp only [Option.map_some, cut, ok_bind, sentenceEnd_eq, Option.bind_eq_bind,
        Option.bind_some, ← numbered?_cutBehind]
      cases spelled : number? (cutBehind rest) with
      | none => rw [numbered?, spelled]; rfl
      | some number =>
          obtain ⟨more, word⟩ := exists_of_number? spelled
          have digits := Text.part_append (before ++ marker) number more
          have summary := Text.part_front (before ++ marker ++ number) more
          rw [Text.bytes_append before marker] at digits
          simp only [Option.map_some, numbered?, spelled, Option.bind_eq_bind, Option.bind_some]
          simp only [word, ← List.append_assoc, digits, summary, ok_bind]
          cases Decimal.read? number <;> rfl

/-- Reading by offsets finds every part that it takes, and the complaint of the line. -/
theorem scan_eq (input line : Text) (continuation : Option Text) :
    scan input line continuation = .ok (ofLine? input line continuation) := by
  by_cases skip : input = [] ∨ Search.occurs input line = false
  · rw [scan, ofLine?, if_pos skip, if_pos skip]
  · obtain ⟨named, names⟩ := not_or.1 skip
    rw [Search.occurs_eq_false_iff, not_not] at names
    rw [scan, if_neg skip, scanStripped_eq, ofLine?_of_named named names]

/-- **Reading follows the grammar of complaints.** Reading a line by byte offsets takes no part of a
text that is not there. It returns a complaint exactly when the line states one, namely the stated
one, and its summary is the front of its message. -/
theorem grammar_of_complaints (input line : Text) (continuation : Option Text) :
    scan input line continuation = .ok (ofLine? input line continuation) ∧
      ∀ f, (ofLine? input line continuation = some f ↔ Stated input line continuation f) ∧
        (ofLine? input line continuation = some f → f.summary <+: f.message) :=
  ⟨scan_eq input line continuation, fun _ =>
    ⟨ofLine?_eq_some_iff, fun h => (ofLine?_eq_some_iff.1 h).summary_front⟩⟩

end Finding

end SyntaxWatch
