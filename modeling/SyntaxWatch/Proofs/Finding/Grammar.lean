import SyntaxWatch.Finding
import SyntaxWatch.Proofs.Text.Occurrence

/-!
# The grammar of complaints

Which lines are complaints is said here as a grammar. A line has to name the input. Without the
name it has to refer to a source line: the word behind the first marker is a number with a full
stop behind it, or with a comma behind it and no full stop (`Finding.Stated`). Reading accepts
these lines and no others, and returns what the grammar says (`Finding.ofLine?_eq_some_iff`).

The parts of the grammar are `Search.First` and `Search.Replaced` for the marker and the name, and
`Decimal.Numeral` and `Finding.Ending` for the word with the number.
-/

namespace SyntaxWatch

/-! ### Numbers -/

namespace Decimal

/-- The spellings of a number: one or more digits, behind at most one plus sign. -/
inductive Numeral : Text → Nat → Prop
  /-- Digits alone. -/
  | unsigned {digits : Text} : digits ≠ [] → (∀ c ∈ digits, c.isDigit = true) →
      Numeral digits (Nat.ofDigitChars 10 digits 0)
  /-- Digits behind a plus sign. -/
  | signed {digits : Text} : digits ≠ [] → (∀ c ∈ digits, c.isDigit = true) →
      Numeral ('+' :: digits) (Nat.ofDigitChars 10 digits 0)

/-- Digits stand for a number when there is at least one of them and nothing else. -/
theorem digits?_eq_some_iff {text : Text} {n : Nat} :
    digits? text = some n ↔
      text ≠ [] ∧ (∀ c ∈ text, c.isDigit = true) ∧ Nat.ofDigitChars 10 text 0 = n := by
  rw [digits?]
  cases text with
  | nil => simp
  | cons c rest => simp [and_assoc]

/-- A spelling begins with a digit or with a plus sign, and goes on with digits. -/
theorem Numeral.eq_cons {text : Text} {n : Nat} (h : Numeral text n) :
    ∃ c rest, text = c :: rest ∧ (c.isDigit = true ∨ c = '+') ∧
      ∀ d ∈ rest, d.isDigit = true := by
  cases h with
  | unsigned some all =>
      obtain ⟨c, rest, rfl⟩ := List.exists_cons_of_ne_nil some
      exact ⟨c, rest, rfl, .inl (all c List.mem_cons_self),
        fun d hd => all d (List.mem_cons_of_mem _ hd)⟩
  | signed some all => exact ⟨_, _, rfl, .inr rfl, all⟩

/-- A spelling has no characters but digits and plus signs. -/
theorem Numeral.notMem {text : Text} {n : Nat} (h : Numeral text n) {c : Char}
    (digit : c.isDigit = false) (sign : c ≠ '+') : c ∉ text := by
  obtain ⟨first, rest, rfl, front, digits⟩ := h.eq_cons
  rw [List.mem_cons, not_or]
  refine ⟨fun same => ?_, fun hc => ?_⟩
  · subst same
    rcases front with front | front
    · rw [digit] at front
      cases front
    · exact sign front
  · have := digits c hc
    rw [digit] at this
    cases this

/-- Numbers of 64 bits are read from their spellings and from nothing else. -/
theorem read?_eq_some_iff {text : Text} {n : Nat} :
    read? text = some n ↔ Numeral text n ∧ n ≤ limit := by
  unfold read?
  rw [Option.filter_eq_some_iff, decide_eq_true_iff]
  refine and_congr_left fun _ => ⟨fun h => ?_, fun h => ?_⟩
  · split at h
    · next digits =>
        obtain ⟨some, all, rfl⟩ := digits?_eq_some_iff.1 h
        exact .signed some all
    · next =>
        obtain ⟨some, all, rfl⟩ := digits?_eq_some_iff.1 h
        exact .unsigned some all
  · cases h with
    | signed some all => exact digits?_eq_some_iff.2 ⟨some, all, rfl⟩
    | unsigned some all =>
        split
        · next digits => exact absurd (all '+' List.mem_cons_self) (by decide)
        · exact digits?_eq_some_iff.2 ⟨some, all, rfl⟩

/-- The decimal form is a spelling. -/
theorem numeral_print (n : Nat) : Numeral (print n) n := by
  obtain ⟨some, all, value⟩ := digits?_eq_some_iff.1 (digits?_print n)
  have spelled := Numeral.unsigned some all
  rwa [value] at spelled

end Decimal

namespace Finding

/-! ### The word with the number -/

/-- What ends a number in its word: a full stop, or a comma with no full stop behind it. -/
inductive Ending : Text → Prop
  /-- A full stop, before anything. -/
  | stop (more : Text) : Ending ('.' :: more)
  /-- A comma, before anything without a full stop. -/
  | comma {more : Text} : '.' ∉ more → Ending (',' :: more)

/-- A front without the character is part of what comes before it. -/
theorem upTo?_append {c : Char} {front : Text} (h : c ∉ front) (text : Text) :
    upTo? c (front ++ text) = (upTo? c text).map (front ++ ·) := by
  have passed : ∀ x ∈ front, decide (x ≠ c) = true := fun x hx =>
    decide_eq_true (ne_of_mem_of_not_mem hx h)
  by_cases hc : c ∈ text
  · rw [upTo?, upTo?, if_pos hc, if_pos (List.mem_append_right _ hc),
      List.takeWhile_append_of_pos passed, Option.map_some]
  · rw [upTo?, upTo?, if_neg hc, if_neg (by simp [h, hc]), Option.map_none]

/-- Nothing comes before a character that the text starts with. -/
theorem upTo?_cons_self (c : Char) (text : Text) : upTo? c (c :: text) = some [] := by
  simp [upTo?]

/-- The search for a character fails only when the character is not there. -/
theorem upTo?_eq_none_iff {c : Char} {text : Text} : upTo? c text = none ↔ c ∉ text := by
  rw [upTo?]
  split <;> simp_all

/-- What stands before the first `c` has a `c` behind it. -/
theorem exists_of_upTo? {c : Char} {text front : Text} (h : upTo? c text = some front) :
    ∃ more, text = front ++ c :: more ∧ c ∉ front := by
  have present : c ∈ text := by
    by_contra absent
    rw [upTo?_eq_none_iff.2 absent] at h
    cases h
  obtain ⟨before, more, rfl, passed⟩ := List.eq_append_cons_of_mem present
  rw [upTo?_append passed, upTo?_cons_self, Option.map_some, List.append_nil] at h
  cases h
  exact ⟨more, rfl, passed⟩

/-- The spelling of the number in a word, with the number. -/
def numbered? (word : Text) : Option (Text × Nat) := do
  let number ← number? word
  let n ← Decimal.read? number
  return (number, n)

/-- A word has a number exactly when it is a spelling with an ending behind it. -/
theorem numbered?_eq_some_iff {word number : Text} {n : Nat} :
    numbered? word = some (number, n) ↔
      (∃ ending, word = number ++ ending ∧ Ending ending) ∧
        Decimal.Numeral number n ∧ n ≤ Decimal.limit := by
  have parts : numbered? word = some (number, n) ↔
      number? word = some number ∧ Decimal.read? number = some n := by
    simp [numbered?, Option.bind_eq_some_iff]
  rw [parts, Decimal.read?_eq_some_iff]
  refine and_congr_left fun ⟨numeral, _⟩ => ⟨fun h => ?_, ?_⟩
  · rw [number?] at h
    cases stopped : upTo? '.' word with
    | some front =>
        rw [stopped] at h
        cases h
        obtain ⟨more, split, -⟩ := exists_of_upTo? stopped
        exact ⟨_, split, .stop more⟩
    | none =>
        rw [stopped] at h
        obtain ⟨more, rfl, -⟩ := exists_of_upTo? h
        have unstopped := upTo?_eq_none_iff.1 stopped
        exact ⟨_, rfl, .comma fun stop => unstopped (by simp [stop])⟩
  · rintro ⟨ending, rfl, ends⟩
    have stop := numeral.notMem (c := '.') (by decide) (by decide)
    have comma := numeral.notMem (c := ',') (by decide) (by decide)
    cases ends with
    | stop more => rw [number?, upTo?_append stop, upTo?_cons_self]; simp
    | @comma more unstopped =>
        have none : upTo? '.' (number ++ ',' :: more) = none :=
          upTo?_eq_none_iff.2 (by simp [stop, unstopped])
        rw [number?, none, upTo?_append comma, upTo?_cons_self]
        simp

/-! ### Lines without the name of the input -/

/-- A message with the line that continues it, if there is one. -/
def extended (message : Text) : Option Text → Text
  | none => message
  | some next => message ++ ' ' :: next.trimStart

/-- The number behind the first marker of a text, and the text up to the end of that number. -/
def reference? (stripped : Text) : Option (Nat × Text) := do
  let (before, rest) ← Search.around? marker stripped
  let (number, line) ← numbered? (rest.takeWhile (· ≠ ' '))
  return (line, before ++ marker ++ number)

/-- The complaint on a line from which the name of the input was taken out. -/
def ofStripped? (stripped : Text) (continuation : Option Text) : Option Finding :=
  (reference? stripped).map fun (line, summary) => {
    line
    message := extended stripped continuation
    summary
    continued := continuation.isSome }

/-- What is read as the line is what stands after the first marker, up to the next space. -/
theorem reference?_of_first {stripped before rest : Text}
    (first : Search.First marker stripped before rest) :
    reference? stripped = (numbered? (rest.takeWhile (· ≠ ' '))).map fun (number, line) =>
      (line, before ++ marker ++ number) := by
  rw [reference?, Search.around?_eq_some_iff.2 first, Option.map_eq_bind]
  rfl

/-- A line is read exactly when the word after the first marker starts with a number, and the
summary is cut after that number. -/
theorem reference?_eq_some_iff {stripped summary : Text} {n : Nat} :
    reference? stripped = some (n, summary) ↔
      ∃ before rest number, Search.First marker stripped before rest ∧
        numbered? (rest.takeWhile (· ≠ ' ')) = some (number, n) ∧
        summary = before ++ marker ++ number := by
  constructor
  · intro h
    obtain ⟨⟨before, rest⟩, found, -⟩ := Option.bind_eq_some_iff.1 h
    have first := Search.first_of_around? found
    rw [reference?_of_first first] at h
    obtain ⟨⟨number, n⟩, numbered, h⟩ := Option.map_eq_some_iff.1 h
    cases h
    exact ⟨before, rest, number, first, numbered, rfl⟩
  · rintro ⟨before, rest, number, first, numbered, rfl⟩
    rw [reference?_of_first first, numbered]
    rfl

/-- What refers to a source line is the front of its text. -/
theorem prefix_of_reference? {stripped summary : Text} {n : Nat}
    (h : reference? stripped = some (n, summary)) : summary <+: stripped := by
  obtain ⟨before, rest, number, first, numbered, rfl⟩ := reference?_eq_some_iff.1 h
  obtain ⟨⟨ending, word, -⟩, -⟩ := numbered?_eq_some_iff.1 numbered
  have inWord : number <+: rest.takeWhile (· ≠ ' ') := word ▸ List.prefix_append _ _
  rw [first.split]
  exact (List.prefix_append_right_inj _).2 (inWord.trans (List.takeWhile_prefix _))

/-- A line without the name of the input is no complaint. -/
theorem ofLine?_of_unnamed {input line : Text} (h : ¬ input <:+: line)
    (continuation : Option Text) : ofLine? input line continuation = none := by
  rw [ofLine?, if_pos (.inr (Search.occurs_eq_false_iff.2 h))]

/-- A line with the name of the input is read without it. -/
theorem ofLine?_of_named {input line : Text} (named : input ≠ []) (h : input <:+: line)
    (continuation : Option Text) :
    ofLine? input line continuation =
      ofStripped? (Search.replace (input ++ [' ']) [] line) continuation := by
  have present : ¬ (input = [] ∨ Search.occurs input line = false) := by
    rw [Search.occurs_eq_false_iff]
    simp [named, h]
  rw [ofLine?, if_neg present]
  simp only [ofStripped?, reference?, numbered?, Option.map_eq_bind, Option.bind_eq_bind,
    Option.bind_assoc, Option.pure_def, Function.comp_apply, Option.bind_some]
  cases continuation <;> rfl

/-- A line that names its input is read without the name, and no other line is read at all. -/
theorem ofLine?_eq (input line : Text) (continuation : Option Text) :
    ofLine? input line continuation =
      if input ≠ [] ∧ input <:+: line then
        ofStripped? (Search.replace (input ++ [' ']) [] line) continuation
      else
        none := by
  split
  · next named => exact ofLine?_of_named named.1 named.2 continuation
  · next unnamed =>
      rw [ofLine?, if_pos]
      rw [Search.occurs_eq_false_iff]
      exact (not_and_or.1 unnamed).imp_left not_not.1

/-! ### Whole lines -/

/-- A line states a complaint about an input, and what that complaint is. -/
inductive Stated (input line : Text) (continuation : Option Text) : Finding → Prop
  /-- The line names the input. What is left of it when the name is taken out wherever a space
  follows it has a marker, and behind the first marker a word that begins with a number. -/
  | intro {stripped before rest number ending : Text} {n : Nat}
      (named : input ≠ []) (names : input <:+: line)
      (strips : Search.Replaced (input ++ [' ']) [] line stripped)
      (first : Search.First marker stripped before rest)
      (word : rest.takeWhile (· ≠ ' ') = number ++ ending)
      (numeral : Decimal.Numeral number n) (small : n ≤ Decimal.limit)
      (ends : Ending ending) :
      Stated input line continuation {
        line := n
        message := extended stripped continuation
        summary := before ++ marker ++ number
        continued := continuation.isSome }

/-- Reading accepts exactly the lines that state a complaint, and returns that complaint. -/
theorem ofLine?_eq_some_iff {input line : Text} {continuation : Option Text} {f : Finding} :
    ofLine? input line continuation = some f ↔ Stated input line continuation f := by
  constructor
  · intro h
    have named : input ≠ [] := by
      rintro rfl
      rw [ofLine?, if_pos (.inl rfl)] at h
      cases h
    have names : input <:+: line := by
      by_contra unnamed
      rw [ofLine?_of_unnamed unnamed] at h
      cases h
    rw [ofLine?_of_named named names] at h
    obtain ⟨⟨n, summary⟩, refers, rfl⟩ := Option.map_eq_some_iff.1 h
    obtain ⟨before, rest, number, first, numbered, rfl⟩ := reference?_eq_some_iff.1 refers
    obtain ⟨⟨ending, word, ends⟩, numeral, small⟩ := numbered?_eq_some_iff.1 numbered
    exact .intro named names (Search.replaced_replace (by simp) line) first word numeral small ends
  · rintro ⟨named, names, strips, first, word, numeral, small, ends⟩
    rw [ofLine?_of_named named names, (Search.replaced_iff (by simp)).1 strips]
    refine Option.map_eq_some_iff.2 ⟨_, reference?_eq_some_iff.2 ⟨_, _, _, first, ?_, rfl⟩, rfl⟩
    exact numbered?_eq_some_iff.2 ⟨⟨_, word, ends⟩, numeral, small⟩

/-- The summary of a complaint is the front of its message. -/
theorem Stated.summary_front {input line : Text} {continuation : Option Text} {f : Finding}
    (h : Stated input line continuation f) : f.summary <+: f.message := by
  cases h with
  | @intro stripped before rest number ending n _ _ _ first word numeral small ends =>
  have refers : reference? stripped = some (n, before ++ marker ++ number) :=
    reference?_eq_some_iff.2 ⟨_, _, _, first,
      numbered?_eq_some_iff.2 ⟨⟨_, word, ends⟩, numeral, small⟩, rfl⟩
  refine (prefix_of_reference? refers).trans ?_
  cases continuation with
  | none => exact List.prefix_rfl
  | some next => exact List.prefix_append _ _

end Finding

end SyntaxWatch
