import SyntaxWatch.Proofs.Json.Reader

/-!
# Values, written and read

The written form of a value is one line (`Json.newline_notMem_print`), and it is read back as the
value (`Json.read?_print`), whatever blanks stand behind it.

Reading is followed along the written form: what a piece of it does to a value that is being built
up does not depend on what comes behind (`Json.feed`), but for one thing. A number has no end of its
own, so the character behind a value has to be one that ends a word (`Json.Ends`).

## Main results

* `Json.feed_print`: a written value is taken for that value, wherever a value may begin.
* `Json.read?_print`: what is written is read.
-/

namespace SyntaxWatch.Json

variable {scan next : Scan} {c : Char} {rest text : Text} {b : Build} {token : Token}
  {around : List Frame}

/-! ### Along a text -/

/-- The tokens that a character completes come before those of the rest. -/
theorem run_cons_of_step {tokens : List Token} (h : scan.step c = some (next, tokens)) :
    Scan.run scan (c :: rest) = (Scan.run next rest).map (tokens ++ ·) := by
  rw [Scan.run, h]
  show (Scan.run next rest >>= fun more => pure (tokens ++ more)) = _
  cases Scan.run next rest <;> rfl

/-- A character that completes no token. -/
theorem run_cons_of_silent (h : scan.step c = some (next, [])) :
    Scan.run scan (c :: rest) = Scan.run next rest := by
  rw [run_cons_of_step h]
  cases Scan.run next rest <;> rfl

/-- What becomes of a value that is being built up when the rest of a text is read. -/
def feed (b : Build) (scan : Scan) (text : Text) : Option Build :=
  (Scan.run scan text).bind fun tokens => tokens.foldlM Build.step b

/-- One more token is taken, and then the rest. -/
theorem feed_of_run {front : Text}
    (h : Scan.run scan front = (Scan.run next rest).map (token :: ·)) :
    feed b scan front = (b.step token).bind fun b => feed b next rest := by
  rw [feed, h]
  cases hrest : Scan.run next rest with
  | none => simp [feed, hrest]
  | some tokens => simp [feed, hrest, List.foldlM_cons]

/-- A character that is a token of its own. -/
theorem feed_mark (h : Scan.mark? c = some token) :
    feed b .between (c :: rest) = (b.step token).bind fun b => feed b .between rest := by
  have quote : c ≠ '"' := by
    rintro rfl
    cases h
  have marks : Scan.between.step c = some (.between, [token]) := by
    simp [Scan.step, Scan.start, Scan.endsWord, h, quote]
  exact feed_of_run (run_cons_of_step marks)

/-! ### Words -/

/-- A text ends what stands in front of it. -/
def Ends : Text → Prop
  | [] => True
  | c :: _ => Scan.endsWord c = true

/-- A word goes on up to what ends it. -/
theorem run_word {word : Text} (whole : ∀ c ∈ word, Scan.endsWord c = false) (ends : Ends rest) :
    Scan.run (.word text) (word ++ rest) =
      (Scan.run .between rest).map (.word (text ++ word) :: ·) := by
  induction word generalizing text with
  | nil =>
      rw [List.nil_append, List.append_nil]
      cases rest with
      | nil => rfl
      | cons c rest =>
          have ended : (Scan.word text).step c =
              some ((Scan.start c).1, .word text :: (Scan.start c).2) := if_pos ends
          have begun : Scan.between.step c = some ((Scan.start c).1, (Scan.start c).2) := rfl
          rw [run_cons_of_step ended, run_cons_of_step begun, Option.map_map]
          rfl
  | cons c word ih =>
      obtain ⟨first, others⟩ := List.forall_mem_cons.1 whole
      have goes : (Scan.word text).step c = some (.word (text ++ [c]), []) := by
        simp [Scan.step, first]
      rw [List.cons_append, run_cons_of_silent goes, ih others, List.append_assoc,
        List.singleton_append]

/-- A word is one token when the text after it ends it. -/
theorem feed_word {word : Text} (some : word ≠ [])
    (whole : ∀ c ∈ word, Scan.endsWord c = false) (ends : Ends rest) :
    feed b .between (word ++ rest) = (b.step (.word word)).bind fun b => feed b .between rest := by
  obtain ⟨c, more, rfl⟩ := List.exists_cons_of_ne_nil some
  obtain ⟨first, others⟩ := List.forall_mem_cons.1 whole
  have begins : Scan.between.step c = .some (.word [c], []) := by
    simp [Scan.step, Scan.start, first]
  exact feed_of_run ((run_cons_of_silent begins).trans (run_word others ends))

/-- No character of a word ends it, which can be checked for a word that is known. -/
theorem whole_of_all {word : Text} (h : word.all (fun c => !Scan.endsWord c) = true) :
    ∀ c ∈ word, Scan.endsWord c = false := by
  simpa using h

/-! ### Strings -/

/-- A digit in base 16 is written as a character that is read as that digit. -/
theorem digit?_digitChar {n : Nat} (small : n < 16) : Radix.digit? 16 n.digitChar = some n := by
  have each : ∀ n < 16, Radix.digit? 16 n.digitChar = some n := by decide
  exact each n small

/-- A letter behind a backslash is read as a character. -/
theorem run_letter {letter : Char} (h : Scan.escaped text letter = some (.string (text ++ [c]))) :
    Scan.run (.string text) ('\\' :: letter :: rest) = Scan.run (.string (text ++ [c])) rest := by
  have escapes : (Scan.string text).step '\\' = some (.escape text, []) := rfl
  have reads : (Scan.escape text).step letter = some (.string (text ++ [c]), []) := by
    rw [Scan.step, h]
    rfl
  rw [run_cons_of_silent escapes, run_cons_of_silent reads]

/-- A digit of an escape by number. -/
theorem run_digit {high : Option Nat} {missing value n : Nat} (more : 1 < missing)
    (small : n < 16) :
    Scan.run (.code text high missing value) (n.digitChar :: rest) =
      Scan.run (.code text high (missing - 1) (value * 16 + n)) rest := by
  refine run_cons_of_silent ?_
  rw [Scan.step, digit?_digitChar small]
  exact if_pos more

/-- A control character is read from its number. -/
theorem run_control (control : c.toNat < 0x20) :
    Scan.run (.string text) ('\\' :: 'u' :: '0' :: '0' :: (c.toNat / 16).digitChar ::
        (c.toNat % 16).digitChar :: rest) =
      Scan.run (.string (text ++ [c])) rest := by
  have escapes : (Scan.string text).step '\\' = some (.escape text, []) := rfl
  have numbers : (Scan.escape text).step 'u' = some (.code text none 4 0, []) := rfl
  have zero : '0' = Nat.digitChar 0 := rfl
  have last : (Scan.code text none 1 (c.toNat / 16)).step (c.toNat % 16).digitChar =
      some (.string (text ++ [c]), []) := by
    have value : c.toNat / 16 * 16 + c.toNat % 16 = c.toNat := by omega
    have single : ¬(0xD800 ≤ c.toNat ∧ c.toNat < 0xDC00) := by omega
    have valid : c.toNat.isValidChar := c.valid
    rw [Scan.step, digit?_digitChar (Nat.mod_lt _ (by decide))]
    simp [value, Scan.coded, single, valid]
  rw [run_cons_of_silent escapes, run_cons_of_silent numbers, zero,
    run_digit (by decide) (by decide), run_digit (by decide) (by decide),
    run_digit (by decide) (by omega)]
  simp only [Nat.zero_mul, Nat.zero_add]
  exact run_cons_of_silent last

/-- A written character of a string is read as this character. -/
theorem run_escape (c : Char) :
    Scan.run (.string text) (escape c ++ rest) = Scan.run (.string (text ++ [c])) rest := by
  rw [escape]
  iterate 7
    split
    · next same =>
        subst same
        exact run_letter rfl
  split
  · next control => exact run_control control
  · next quote backslash _ _ _ _ _ plain =>
      refine run_cons_of_silent ?_
      rw [Scan.step, if_neg quote, if_neg backslash, if_neg plain]

/-- The characters of a string are read as they were written, up to the quote that closes it. -/
theorem run_string {written : Text} :
    Scan.run (.string text) (written.flatMap escape ++ '"' :: rest) =
      (Scan.run .between rest).map (.string (text ++ written) :: ·) := by
  induction written generalizing text with
  | nil =>
      have closes : (Scan.string text).step '"' = some (.between, [.string text]) := rfl
      rw [List.flatMap_nil, List.nil_append, run_cons_of_step closes, List.append_nil]
      rfl
  | cons c written ih =>
      rw [List.flatMap_cons, List.append_assoc, run_escape, ih, List.append_assoc,
        List.singleton_append]

/-- A written string is one token, with the text that was written. -/
theorem feed_quoted (written : Text) :
    feed b .between (quoted written ++ rest) =
      (b.step (.string written)).bind fun b => feed b .between rest := by
  have opens : Scan.between.step '"' = some (.string [], []) := rfl
  have whole : quoted written ++ rest = '"' :: (written.flatMap escape ++ '"' :: rest) := by
    simp [quoted]
  rw [whole]
  exact feed_of_run ((run_cons_of_silent opens).trans run_string)

/-! ### Numbers -/

/-- A decimal form has no leading zero. -/
theorem head?_print_ne {n : Nat} (positive : 0 < n) : (Decimal.print n).head? ≠ some '0' := by
  induction n using Nat.strongRecOn with
  | ind n ih =>
      rw [Decimal.print]
      by_cases small : n < 10
      · rw [Nat.toDigits_of_lt_base small]
        simpa using Nat.ne_of_gt positive
      · have front := ih (n / 10) (by omega) (by omega)
        rw [Nat.toDigits_of_base_le (by decide) (Nat.le_of_not_lt small),
          List.head?_append, Option.or_of_isSome (by simp)]
        exact front

/-- A decimal form is read as its number. -/
theorem natural?_print (n : Nat) : natural? (Decimal.print n) = some n := by
  rw [natural?, if_neg, Decimal.digits?_print]
  rintro ⟨leading, long⟩
  rcases Nat.eq_zero_or_pos n with rfl | positive
  · exact long rfl
  · exact head?_print_ne positive leading

/-- A number is written with digits and a sign. -/
theorem digit_of_mem_printInt {value : Int} (h : c ∈ printInt value) :
    c.isDigit = true ∨ c = '-' := by
  have digit {n : Nat} (mem : c ∈ Decimal.print n) : c.isDigit = true :=
    Nat.isDigit_of_mem_toDigits (by decide) (by decide) mem
  cases value with
  | ofNat n => exact .inl (digit h)
  | negSucc n => exact (List.mem_cons.1 h).symm.imp_left digit

/-- A written integer is read as that integer, with its sign. -/
theorem ofInteger?_printInt (value : Int) : ofInteger? (printInt value) = some value := by
  cases value with
  | negSucc n =>
      rw [printInt, ofInteger?, natural?_print]
      rfl
  | ofNat n =>
      have unsigned : ∀ digits, printInt (.ofNat n) ≠ '-' :: digits := fun digits same => by
        have mem : '-' ∈ printInt (.ofNat n) := same.symm ▸ List.mem_cons_self
        have digit : '-'.isDigit = true := Nat.isDigit_of_mem_toDigits (by decide) (by decide) mem
        exact absurd digit (by decide)
      rw [ofInteger?]
      · rw [printInt, natural?_print]
        rfl
      · exact unsigned

/-- A written integer is none of the three names, and is taken for a number. -/
theorem ofWord?_printInt (value : Int) : ofWord? (printInt value) = some (number value) := by
  have other {letter : Char} {letters : Text} (plain : ¬(letter.isDigit = true ∨ letter = '-')) :
      printInt value ≠ letter :: letters := fun same =>
    plain (digit_of_mem_printInt (same ▸ List.mem_cons_self))
  have unequal : printInt value ≠ "null".toList ∧ printInt value ≠ "true".toList ∧
      printInt value ≠ "false".toList :=
    ⟨other (by decide), other (by decide), other (by decide)⟩
  rw [ofWord?, if_neg unequal.1, if_neg unequal.2.1, if_neg unequal.2.2, ofInteger?_printInt]
  rfl

/-- Only blanks, brackets, commas, colons and quotes end a word. -/
theorem mem_of_endsWord (h : Scan.endsWord c = true) : c ∈ " \t\n\r[]\x7b\x7d,:\"".toList := by
  rw [Scan.endsWord, Bool.or_eq_true, Bool.or_eq_true] at h
  rcases h with (space | mark) | quote
  · simp [Scan.isSpace] at space
    rcases space with ((rfl | rfl) | rfl) | rfl <;> decide
  · unfold Scan.mark? at mark
    split at mark <;> first | decide | cases mark
  · rw [of_decide_eq_true quote]
    decide

/-- Neither digits nor letters end a word. -/
theorem endsWord_of_digit (h : c.isDigit = true ∨ c = '-') : Scan.endsWord c = false := by
  have apart : " \t\n\r[]\x7b\x7d,:\"".toList.all (fun c => !(c.isDigit || c = '-')) = true := rfl
  refine Bool.eq_false_iff.2 fun ends => ?_
  have other := List.all_eq_true.1 apart c (mem_of_endsWord ends)
  rcases h with digit | sign
  · simp [digit] at other
  · simp [sign] at other

/-! ### Values -/

/-- An item is ended by the comma before the next one, or by the bracket. -/
theorem ends_printMoreItems (items : List Json) (rest : Text) :
    Ends (printMoreItems items ++ ']' :: rest) := by
  cases items with
  | nil => rw [printMoreItems]; rfl
  | cons item items => rw [printMoreItems]; rfl

/-- A field is ended by the comma before the next one, or by the bracket. -/
theorem ends_printMoreFields (fields : List (Text × Json)) (rest : Text) :
    Ends (printMoreFields fields ++ '\x7d' :: rest) := by
  cases fields with
  | nil => rw [printMoreFields]; rfl
  | cons field fields => rw [printMoreFields]; rfl

/-- A key is taken behind the bracket of an object or behind a comma, and a value may begin behind
the colon. -/
theorem feed_key {before : List (Text × Json)} {key : Text}
    (keys : b.step (.string key) = some (.colon around before key)) :
    feed b .between (quoted key ++ ':' :: rest) =
      feed (.value (.field before key :: around)) .between rest := by
  rw [feed_quoted, keys]
  exact feed_mark (c := ':') rfl

mutual

/-- A written value is taken for that value, wherever a value may begin. -/
theorem feed_print {b : Build} {around : List Frame} {rest : Text}
    (opens : ∀ token ≠ .closeArray, b.step token = Build.start around token) (ends : Ends rest) :
    ∀ j : Json, feed b .between (j.print ++ rest) = feed (.behind around j) .between rest
  | null => by
      rw [print, feed_word (by decide) (whole_of_all rfl) ends, opens _ (by decide)]
      rfl
  | bool true => by
      rw [print, feed_word (by decide) (whole_of_all rfl) ends, opens _ (by decide)]
      rfl
  | bool false => by
      rw [print, feed_word (by decide) (whole_of_all rfl) ends, opens _ (by decide)]
      rfl
  | number value => by
      have some : printInt value ≠ [] := by
        cases value with
        | ofNat n => exact Nat.toDigits_ne_nil
        | negSucc n => exact List.cons_ne_nil _ _
      have whole : ∀ c ∈ printInt value, Scan.endsWord c = false := fun c mem =>
        endsWord_of_digit (digit_of_mem_printInt mem)
      rw [print, feed_word some whole ends, opens _ (by simp), Build.start, ofWord?_printInt]
      rfl
  | string value => by
      rw [print, feed_quoted, opens _ (by simp)]
      rfl
  | array [] => by
      have written : (array []).print ++ rest = '[' :: ']' :: rest := by simp [print, printItems]
      rw [written, feed_mark (c := '[') rfl, opens _ (by simp)]
      exact feed_mark (c := ']') rfl
  | array (item :: items) => by
      have written : (array (item :: items)).print ++ rest =
          '[' :: (item.print ++ (printMoreItems items ++ ']' :: rest)) := by
        simp [print, printItems]
      have opens' : ∀ token ≠ .closeArray, (Build.item around).step token =
          Build.start (.items [] :: around) token := by
        intro token other
        cases token <;> first | rfl | exact absurd rfl other
      rw [written, feed_mark (c := '[') rfl, opens _ (by simp)]
      exact (feed_print opens' (ends_printMoreItems items rest) item).trans
        (feed_moreItems around [] item items)
  | object [] => by
      have written : (object []).print ++ rest = '\x7b' :: '\x7d' :: rest := by
        simp [print, printFields]
      rw [written, feed_mark (c := '\x7b') rfl, opens _ (by simp)]
      exact feed_mark (c := '\x7d') rfl
  | object ((key, value) :: fields) => by
      have written : (object ((key, value) :: fields)).print ++ rest =
          '\x7b' :: (quoted key ++ ':' :: (value.print ++
            (printMoreFields fields ++ '\x7d' :: rest))) := by
        simp [print, printFields]
      rw [written, feed_mark (c := '\x7b') rfl, opens _ (by simp)]
      refine (feed_key rfl).trans ?_
      exact (feed_print (fun _ _ => rfl) (ends_printMoreFields fields rest) value).trans
        (feed_moreFields around [] key value fields)

/-- The items of an array behind the first. -/
theorem feed_moreItems {rest : Text} (around : List Frame) (before : List Json) (v : Json) :
    ∀ items : List Json,
      feed (.behind (.items before :: around) v) .between (printMoreItems items ++ ']' :: rest) =
        feed (.behind around (array (before ++ v :: items))) .between rest
  | [] => by
      rw [printMoreItems, List.nil_append]
      exact feed_mark (c := ']') rfl
  | item :: items => by
      have written : printMoreItems (item :: items) ++ ']' :: rest =
          ',' :: (item.print ++ (printMoreItems items ++ ']' :: rest)) := by
        simp [printMoreItems]
      rw [written, feed_mark (c := ',') rfl]
      refine (feed_print (fun _ _ => rfl) (ends_printMoreItems items rest) item).trans ?_
      rw [feed_moreItems around (before ++ [v]) item items, List.append_assoc,
        List.singleton_append]

/-- The fields of an object behind the first. -/
theorem feed_moreFields {rest : Text} (around : List Frame) (before : List (Text × Json))
    (name : Text) (v : Json) :
    ∀ fields : List (Text × Json),
      feed (.behind (.field before name :: around) v) .between
          (printMoreFields fields ++ '\x7d' :: rest) =
        feed (.behind around (object (before ++ (name, v) :: fields))) .between rest
  | [] => by
      rw [printMoreFields, List.nil_append]
      exact feed_mark (c := '\x7d') rfl
  | (key, value) :: fields => by
      have written : printMoreFields ((key, value) :: fields) ++ '\x7d' :: rest =
          ',' :: (quoted key ++ ':' :: (value.print ++
            (printMoreFields fields ++ '\x7d' :: rest))) := by
        simp [printMoreFields]
      rw [written, feed_mark (c := ',') rfl]
      refine (feed_key rfl).trans ?_
      refine (feed_print (fun _ _ => rfl) (ends_printMoreFields fields rest) value).trans ?_
      rw [feed_moreFields around (before ++ [(name, v)]) key value fields, List.append_assoc,
        List.singleton_append]

end

/-! ### Whole texts -/

/-- A text is read by building one value up from nothing. -/
theorem read?_eq (text : Text) :
    read? text = (feed (.value []) .between text).bind Build.finish := by
  rw [read?, feed, Option.bind_assoc]
  rfl

/-- Blanks complete nothing. -/
theorem run_blanks {blanks : Text} (blank : ∀ c ∈ blanks, Scan.isSpace c = true) :
    Scan.run .between blanks = some [] := by
  induction blanks with
  | nil => rfl
  | cons c blanks ih =>
      obtain ⟨first, rest⟩ := List.forall_mem_cons.1 blank
      have skips : Scan.between.step c = some (.between, []) := by
        simp only [Scan.isSpace, Bool.or_eq_true, decide_eq_true_eq] at first
        rcases first with ((rfl | rfl) | rfl) | rfl <;> rfl
      rw [run_cons_of_silent skips, ih rest]

/-- What is written is read, whatever blanks stand behind it. -/
theorem read?_print (j : Json) {blanks : Text} (blank : ∀ c ∈ blanks, Scan.isSpace c = true) :
    read? (j.print ++ blanks) = some j := by
  have ends : Ends blanks := by
    cases blanks with
    | nil => trivial
    | cons c blanks => simp [Ends, Scan.endsWord, blank c List.mem_cons_self]
  rw [read?_eq, feed_print (fun _ _ => rfl) ends, feed, run_blanks blank]
  rfl

/-! ### One line -/

/-- A line feed is never written as it is, but by its name. -/
theorem newline_notMem_escape (c : Char) : '\n' ∉ escape c := by
  have digit : ∀ n < 16, '\n' ≠ n.digitChar := by decide
  rw [escape]
  iterate 2
    split
    · decide
  split
  · decide
  · next other =>
      iterate 4
        split
        · decide
      split
      · next control => simp [digit (c.toNat / 16) (by omega), digit (c.toNat % 16) (by omega)]
      · simpa using Ne.symm other

/-- A written string is one line, whatever its text. -/
theorem newline_notMem_quoted (text : Text) : '\n' ∉ quoted text := by
  have inside : '\n' ∉ text.flatMap escape := fun mem => by
    obtain ⟨c, -, newline⟩ := List.mem_flatMap.1 mem
    exact newline_notMem_escape c newline
  simp [quoted, inside]

mutual

/-- A written value is one line. -/
theorem newline_notMem_print : ∀ j : Json, '\n' ∉ j.print
  | null => by rw [print]; decide
  | bool true => by rw [print]; decide
  | bool false => by rw [print]; decide
  | number value => by
      rw [print]
      exact fun mem => absurd (digit_of_mem_printInt mem) (by decide)
  | string value => by
      rw [print]
      exact newline_notMem_quoted value
  | array [] => by
      simp [print, printItems]
  | array (item :: items) => by
      simp [print, printItems, newline_notMem_print item, newline_notMem_printMoreItems items]
  | object [] => by
      simp [print, printFields]
  | object ((key, value) :: fields) => by
      simp [print, printFields, newline_notMem_quoted key, newline_notMem_print value,
        newline_notMem_printMoreFields fields]

/-- The further items of a written array stay on its line. -/
theorem newline_notMem_printMoreItems : ∀ items : List Json, '\n' ∉ printMoreItems items
  | [] => by
      rw [printMoreItems]
      exact List.not_mem_nil
  | item :: items => by
      simp [printMoreItems, newline_notMem_print item, newline_notMem_printMoreItems items]

/-- The further fields of a written object stay on its line. -/
theorem newline_notMem_printMoreFields :
    ∀ fields : List (Text × Json), '\n' ∉ printMoreFields fields
  | [] => by
      rw [printMoreFields]
      exact List.not_mem_nil
  | (key, value) :: fields => by
      simp [printMoreFields, newline_notMem_quoted key, newline_notMem_print value,
        newline_notMem_printMoreFields fields]

end

end SyntaxWatch.Json
