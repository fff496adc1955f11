import SyntaxWatch.Proofs.Finding.Template

/-!
# Complaints, printed and read

The checker prints a complaint as a message, the word `at`, the path of its input, the marker, the
number of the source line, and what closes this reference (`Finding.printed`). The number is read
behind the first marker of the line. The message comes before the marker that the checker printed,
and it may quote anything, so what decides is whether the message has a marker of its own, be it one
that ends in the space before `at`.

* `Finding.first_printed`: without one, the printed marker is the first.
* `Finding.reference?_of_marked`: with one, nothing behind the message is looked at.
* `Finding.reads_printed`: a printed complaint is read back exactly in the first case. A text that
  the message quotes is enough for the second (`Finding.printed_quotations_misread`).
-/

namespace SyntaxWatch.Finding

/-- What closes the reference to a source line: a full stop, which may have a space and more text
behind it, or a comma, which has. -/
inductive Closing : Text → Prop
  | stop : Closing ['.']
  | sentence (more : Text) : Closing ('.' :: ' ' :: more)
  | clause (more : Text) : Closing (',' :: ' ' :: more)

/-- A complaint as the checker prints it. -/
def printed (message input : Text) (n : Nat) (closing : Text) : Text :=
  message ++ " at ".toList ++ input ++ marker ++ Decimal.print n ++ closing

variable {message input closing : Text} {n : Nat}

/-- The marker is a word between spaces. -/
theorem marker_eq : marker = ' ' :: "line ".toList := rfl

/-! ### The name of the input -/

/-- A complaint as the checker prints it for any input. -/
def printedTemplate (message : Text) (n : Nat) (closing : Text) : Template :=
  Template.ofText (message ++ " at ".toList) ++
    .name :: Template.ofText ("line ".toList ++ Decimal.print n ++ closing)

/-- A printed message is its template, filled with the name of the input. -/
theorem fill_printedTemplate (message input : Text) (n : Nat) (closing : Text) :
    (printedTemplate message n closing).fill input = printed message input n closing := by
  rw [printedTemplate, Template.fill_append, Template.fill_ofText, Template.fill_name,
    Template.fill_ofText, printed]
  simp only [List.append_assoc]
  rfl

/-- Without the name of the input, the place of a message is its number alone. -/
theorem bare_printedTemplate (message : Text) (n : Nat) (closing : Text) :
    (printedTemplate message n closing).bare =
      message ++ " at".toList ++ marker ++ (Decimal.print n ++ closing) := by
  rw [printedTemplate, Template.bare_append, Template.bare_ofText, Template.bare_name,
    Template.bare_ofText]
  simp only [List.append_assoc]
  rfl

/-- The name stands apart in a printed complaint when it occurs where it was printed and nowhere
else. -/
theorem apart_printedTemplate_iff :
    (printedTemplate message n closing).Apart input ↔
      ∀ front back, printed message input n closing = front ++ input ++ back →
        front = message ++ " at ".toList := by
  simp only [Template.Apart, fill_printedTemplate]
  refine forall₃_congr fun front back _ => ⟨?_, fun at_ => ?_⟩
  · rintro ⟨before, after, split, rfl⟩
    obtain ⟨rfl, -, -⟩ := (List.append_cons_inj_of_notMem
      (Template.name_notMem_ofText _) (Template.name_notMem_ofText _)).1 split
    exact Template.fill_ofText _ _
  · exact ⟨_, _, rfl, by rw [at_, Template.fill_ofText]⟩

/-- A printed complaint is read without the name, and then the marker is right behind `at`. -/
theorem ofLine?_printed (named : input ≠ [])
    (sole : ∀ front back, printed message input n closing = front ++ input ++ back →
      front = message ++ " at ".toList) (continuation : Option Text) :
    ofLine? input (printed message input n closing) continuation =
      ofStripped? (message ++ " at".toList ++ marker ++ (Decimal.print n ++ closing))
        continuation := by
  have place : Piece.name ∈ printedTemplate message n closing := by simp [printedTemplate]
  rw [← fill_printedTemplate, Template.ofLine?_fill named (apart_printedTemplate_iff.2 sole),
    if_pos place, bare_printedTemplate]

/-! ### The first marker -/

/-- What closes a place ends the number that stands before it. -/
theorem Closing.ending (h : Closing closing) : Ending (closing.takeWhile (· ≠ ' ')) := by
  cases h with
  | stop => exact .stop []
  | sentence more => exact .stop []
  | clause more => exact .comma (by simp)

/-- The word behind the printed marker has the printed number. -/
theorem numbered?_printed (small : n ≤ Decimal.limit) (closes : Closing closing) :
    numbered? ((Decimal.print n ++ closing).takeWhile (· ≠ ' ')) = some (Decimal.print n, n) := by
  have spelled := Decimal.numeral_print n
  have solid : ∀ c ∈ Decimal.print n, decide (c ≠ ' ') = true := fun c hc =>
    decide_eq_true (ne_of_mem_of_not_mem hc (spelled.notMem (by decide) (by decide)))
  rw [List.takeWhile_append_of_pos solid]
  exact numbered?_eq_some_iff.2 ⟨⟨_, rfl, closes.ending⟩, spelled, small⟩

/-- In a message without a marker of its own, not even with the space behind it, the printed marker
is the first one. -/
theorem first_printed (unmarked : ¬ marker <:+: message ++ [' ']) (rest : Text) :
    Search.First marker (message ++ " at".toList ++ marker ++ rest)
      (message ++ " at".toList) rest := by
  have long : marker ≠ [] := by decide
  have whole : message ++ " at".toList ++ marker ++ rest =
      (message ++ [' ']) ++ 'a' :: ([] ++ 't' :: (marker ++ rest)) := by simp
  have here : Search.around? marker (marker ++ rest) = some ([], rest) :=
    Search.around?_eq_some_iff.2 ⟨rfl, fun front _ _ => Nat.zero_le front.length⟩
  have nowhere : Search.around? marker [] = none := by decide
  refine Search.first_of_around? ?_
  -- Neither letter of the word is one of the marker, so they separate the search.
  rw [whole, Search.around?_append_cons (by decide) long, Search.around?_eq_none_iff.2 unmarked,
    Search.around?_append_cons (by decide) long, nowhere, here]
  simp

/-- The number that a printed complaint refers to, if its message has no marker of its own. -/
theorem reference?_printed (unmarked : ¬ marker <:+: message ++ [' ']) (small : n ≤ Decimal.limit)
    (closes : Closing closing) :
    reference? (message ++ " at".toList ++ marker ++ (Decimal.print n ++ closing)) =
      some (n, message ++ " at line ".toList ++ Decimal.print n) :=
  reference?_eq_some_iff.2 ⟨_, _, _, first_printed unmarked _, numbered?_printed small closes, by
    simp only [List.append_assoc]; rfl⟩

/-- A text with a marker refers to the same source line whatever comes behind the next space. -/
theorem reference?_append_of_marked {front : Text} (marked : marker <:+: front) (back : Text) :
    reference? (front ++ ' ' :: back) = reference? front := by
  obtain ⟨⟨before, rest⟩, found⟩ := Option.isSome_iff_exists.1 (Search.occurs_iff.2 marked)
  have first := Search.first_of_around? found
  rw [reference?_of_first first, reference?_of_first (first.append _),
    Search.takeWhile_append_cons_self]

/-- A message with a marker of its own decides alone what is referred to. -/
theorem reference?_of_marked (marked : marker <:+: message ++ [' ']) (rest : Text) :
    reference? (message ++ " at".toList ++ marker ++ rest) =
      reference? (message ++ " at".toList) := by
  have inside : marker <:+: message ++ " at".toList := marked.trans ⟨[], "at".toList, by simp⟩
  have whole : message ++ " at".toList ++ marker ++ rest =
      message ++ " at".toList ++ ' ' :: ("line ".toList ++ rest) := by
    rw [marker_eq]
    simp only [List.append_assoc, List.cons_append]
  rw [whole, reference?_append_of_marked inside]

/-! ### Reading -/

/-- **A printed complaint is read back exactly when its message has no marker of its own.** The
space behind the message may be the end of such a marker. A message that has one decides alone which
source line is read and what the summary is. -/
theorem reads_printed (named : input ≠ []) (small : n ≤ Decimal.limit) (closes : Closing closing)
    (sole : ∀ front back, printed message input n closing = front ++ input ++ back →
      front = message ++ " at ".toList) (continuation : Option Text) :
    ((∃ f, ofLine? input (printed message input n closing) continuation = some f ∧
        f.line = n ∧ f.summary = message ++ " at line ".toList ++ Decimal.print n) ↔
      ¬ marker <:+: message ++ [' ']) ∧
    (marker <:+: message ++ [' '] →
      (ofLine? input (printed message input n closing) continuation).map
          (fun f => (f.line, f.summary)) =
        reference? (message ++ " at".toList)) := by
  rw [ofLine?_printed named sole]
  refine ⟨⟨?_, fun unmarked => ?_⟩, fun marked => ?_⟩
  · rintro ⟨f, read, -, summary⟩ marked
    obtain ⟨⟨m, front⟩, refers, rfl⟩ := Option.map_eq_some_iff.1 read
    rw [reference?_of_marked marked] at refers
    -- What is read ends before the printed number.
    have short := (prefix_of_reference? refers).length_le
    have longer : " at".toList.length < " at line ".toList.length := by decide
    rw [show front = _ from summary, List.length_append, List.length_append,
      List.length_append] at short
    omega
  · rw [ofStripped?, reference?_printed unmarked small closes]
    exact ⟨_, rfl, rfl, rfl⟩
  · rw [ofStripped?, reference?_of_marked marked, Option.map_map]
    exact Option.map_id'

/-- A message that speaks of a variable named `$line` has no marker. -/
theorem reads_printed_variable :
    ∃ f, ofLine? "/tmp/a.pl".toList
        (printed "Possible typo in $line".toList "/tmp/a.pl".toList 42 ", near x".toList) none =
          some f ∧
      f.line = 42 ∧ f.summary = "Possible typo in $line at line 42".toList :=
  (reads_printed (by decide) (by decide) (.clause _)
    (apart_printedTemplate_iff.1 (by decide)) none).1.2 (by decide)

/-- A message that quotes a marker is given to the source line that the quotation names, or to
none. -/
theorem printed_quotations_misread :
    (∀ front back,
        printed "Bad name \" line 7.\"".toList "/tmp/a.pl".toList 3 ['.'] =
          front ++ "/tmp/a.pl".toList ++ back →
        front = "Bad name \" line 7.\" at ".toList) ∧
      ofLine? "/tmp/a.pl".toList
          (printed "Bad name \" line 7.\"".toList "/tmp/a.pl".toList 3 ['.']) none =
        some {
          line := 7
          message := "Bad name \" line 7.\" at line 3.".toList
          summary := "Bad name \" line 7".toList
          continued := false } ∧
      ofLine? "/tmp/a.pl".toList
          (printed "Bad name \" line up\"".toList "/tmp/a.pl".toList 3 ['.']) none = none :=
  ⟨apart_printedTemplate_iff.1 (by decide), by decide, by decide⟩

end SyntaxWatch.Finding
