import SyntaxWatch.Proofs.Finding.Grammar
import SyntaxWatch.Settings.Arguments

/-!
# Options, written and read

Options are written on a command line one argument at a time: `--name=value` for every value, and
one word for warnings. The order does not matter, but for the flags, which are a list. Whatever the
values look like, the arguments are read back as the options (`Options.parse_saidBy`).

The reason is that an argument of this form is closed: its name ends at the first equals sign, since
no name has one, and all that is behind it is the value. So every argument is taken up at once, and
a command line is read by taking up what its arguments say, one after the other
(`Arguments.step_argument`). What has been taken up on the way is a front of what is still to be
said, option by option (`Options.foldlM_take`).

## Main definitions

* `Said`, `Said.argument`: what one argument says, and how it is written.
* `Options.values`: the values that options give, in their order.
* `Options.SaidBy`: some arguments say the options and nothing else, in any order that keeps the
  flags in theirs.
* `Options.settled`: the options with the log level filled in.

## Main results

* `Options.parse_saidBy`: what is said is read.
-/

namespace SyntaxWatch

/-- What one argument says: a value of an option, or that there shall be warnings, which is written
with the name or with the letter of that switch. -/
inductive Said where
  | gives (option : Valued) (value : Text)
  | warnings
  | letter
  deriving DecidableEq

namespace Said

/-- The argument as it is written. -/
def argument : Said → Text
  | gives option value => "--".toList ++ option.name ++ '=' :: value
  | warnings => "--".toList ++ Switch.warnings.name
  | letter => "-w".toList

/-- The value that is given to an option. -/
def value? (option : Valued) : Said → Option Text
  | gives other value => if other = option then some value else none
  | _ => none

/-- Whether warnings are asked for. -/
def warns : Said → Bool
  | gives _ _ => false
  | _ => true

/-- Takes up what an argument says. -/
def take (o : Options) : Said → Except ArgumentFault Options
  | gives option value => Arguments.assign o option value
  | warnings | letter => if o.warnings then .error .conflict else .ok { o with warnings := true }

variable {o : Options} {s : Said}

@[simp] theorem value?_gives_self (option : Valued) (value : Text) :
    value? option (gives option value) = some value :=
  if_pos rfl

/-- An argument gives no value to any other option. -/
theorem value?_gives_of_ne {option other : Valued} (ne : other ≠ option) (value : Text) :
    value? option (gives other value) = none :=
  if_neg ne

/-- The arguments of an option give it its values, in their order. -/
theorem filterMap_gives (option : Valued) (values : List Text) :
    (values.map (gives option)).filterMap (value? option) = values := by
  simp

/-- An argument that asks for warnings gives no value to any option. -/
theorem value?_of_warns (h : s.warns = true) (option : Valued) : value? option s = none := by
  cases s with
  | gives => cases h
  | warnings => rfl
  | letter => rfl

/-- Asking for warnings turns them on, when they are off. -/
theorem take_of_warns (h : s.warns = true) (off : o.warnings = false) :
    s.take o = .ok { o with warnings := true } := by
  cases s with
  | gives => cases h
  | warnings => rw [take, off]; rfl
  | letter => rw [take, off]; rfl

/-- An argument gives a value or asks for warnings. -/
theorem gives_or_warns (s : Said) : (∃ option value, s = gives option value) ∨ s.warns = true := by
  cases s with
  | gives option value => exact .inl ⟨option, value, rfl⟩
  | warnings => exact .inr rfl
  | letter => exact .inr rfl

end Said

namespace Options

/-- The options with the log level filled in. -/
def settled (o : Options) : Options :=
  { o with logLevel := some (o.logLevel.getD defaultLogLevel) }

/-- The values that are given to an option, in their order. -/
def values (o : Options) : Valued → List Text
  | .interpreter => o.interpreter.toList
  | .flag => o.flags
  | .interval => (o.interval.map Decimal.print).toList
  | .grace => (o.grace.map Decimal.print).toList
  | .cap => (o.cap.map Decimal.print).toList
  | .limit => (o.limit.map Decimal.print).toList
  | .config => o.config.toList
  | .logLevel => o.logLevel.toList

/-- What the options say, in the order of their names. Warnings are asked for with the word that is
given. -/
def said (o : Options) (word : Said) : List Said :=
  Valued.all.flatMap (fun option => (o.values option).map (.gives option)) ++
    if o.warnings then [word] else []

/-- Options that fit on a command line: paths have a text, and numbers have 64 bits. -/
structure Sayable (o : Options) : Prop where
  interpreter : ∀ path ∈ o.interpreter, path ≠ []
  interval : ∀ n ∈ o.interval, n ≤ Decimal.limit
  grace : ∀ n ∈ o.grace, n ≤ Decimal.limit
  cap : ∀ n ∈ o.cap, n ≤ Decimal.limit
  limit : ∀ n ∈ o.limit, n ≤ Decimal.limit
  config : ∀ path ∈ o.config, path ≠ []

/-- Some arguments say the options and nothing else. Each option that is set has one argument, each
flag has one, and warnings have one if they are on. Of these, the flags stand in their own order.
The log level may be left out when it is the one that is filled in. -/
structure SaidBy (o : Options) (arguments : List Said) : Prop where
  each : ∃ (written : Options) (word : Said), written.settled = o.settled ∧ word.warns = true ∧
    arguments.Perm (written.said word)
  ordered : (o.flags.map (.gives .flag)).Sublist arguments

end Options

/-! ### One argument -/

namespace Valued

variable (option : Valued)

/-- Every option is found by its name. -/
theorem ofName?_name : ofName? option.name = some option := by
  cases option <;> decide

/-- The name of an option has no equals sign in it, so that the first one ends it. -/
theorem equals_notMem_name : '=' ∉ option.name := by
  cases option <;> decide

end Valued

namespace Arguments

/-- The name of an option ends at the first equals sign, and its value is all that is behind. -/
theorem shape_gives (option : Valued) (value : Text) :
    Shape.of (Said.gives option value).argument = .long option.name (some value) := by
  have solid : ∀ c ∈ option.name, decide (c ≠ '=') = true := fun c hc =>
    decide_eq_true (ne_of_mem_of_not_mem hc option.equals_notMem_name)
  have front : (option.name ++ '=' :: value).takeWhile (· ≠ '=') = option.name := by
    rw [List.takeWhile_append_of_pos solid]
    simp
  have back : (option.name ++ '=' :: value).dropWhile (· ≠ '=') = '=' :: value := by
    rw [List.dropWhile_append_of_pos solid]
    simp
  -- The name of an option is not empty, so the argument is not the escape.
  obtain ⟨c, name, hname⟩ : ∃ c name, option.name = c :: name := by
    cases option <;> exact ⟨_, _, rfl⟩
  rw [Said.argument, List.append_assoc]
  rw [hname, List.cons_append] at front back ⊢
  show Shape.of ('-' :: '-' :: c :: (name ++ '=' :: value)) = _
  rw [Shape.of, front, back]
  simp

/-- A command line of which some options have been taken up. -/
def Reading.having (o : Options) : Reading :=
  { taken := { options := o } }

/-- Warnings are taken up unless they have been asked for before. -/
theorem Reading.switched_having (o : Options) :
    (having o).switched .warnings = (Said.take o .warnings).map having := by
  rw [Said.take]
  split
  · next on => exact if_pos on
  · next off => exact if_neg off

/-- A value that is part of its argument is taken up with it. -/
theorem Reading.valued_having (o : Options) (option : Valued) (value : Text) :
    (having o).valued option (some value) = (assign o option value).map having := by
  show (do let options ← assign o option value; return _) = _
  cases assign o option value <;> rfl

/-- An argument is taken up at once, whatever its value looks like. -/
theorem step_argument (o : Options) (s : Said) :
    Reading.step .options (.having o) s.argument = (s.take o).map .having := by
  cases s with
  | gives option value =>
      have read : Reading.step .options (.having o) (Said.gives option value).argument =
          Reading.long .options (.having o) option.name (some value) := by
        rw [Reading.step, shape_gives]
        rfl
      rw [read, Said.take, ← Reading.valued_having]
      simp only [Reading.long, option.ofName?_name]
  | warnings => exact Reading.switched_having o
  | letter =>
      have read : Reading.step .options (.having o) Said.letter.argument =
          (Reading.having o).switched .warnings >>= pure := rfl
      rw [read, bind_pure, Reading.switched_having]
      rfl

/-- A command line is read by taking up what its arguments say. -/
theorem foldlM_step {arguments : List Said} {o₀ o : Options}
    (taken : arguments.foldlM Said.take o₀ = .ok o) :
    (arguments.map Said.argument).foldlM (Reading.step .options) (.having o₀) =
      .ok (.having o) := by
  induction arguments generalizing o₀ with
  | nil =>
      cases taken
      rfl
  | cons s arguments ih =>
      rw [List.foldlM_cons] at taken
      rw [List.map_cons, List.foldlM_cons, step_argument]
      cases first : s.take o₀ with
      | error fault =>
          rw [first] at taken
          cases taken
      | ok o₁ =>
          rw [first] at taken
          exact ih taken

/-- A value that is given once is taken up when it is read, `write` being how it is written: if the
values so far and some more are those of an option, there were none so far. -/
theorem once_of_values {α : Type} (write : α → Text) {read : Text → Except ArgumentFault α}
    {old new : Option α} {value : Text} {more : List Text}
    (fits : ∀ a ∈ new, read (write a) = .ok a)
    (front : (old.map write).toList ++ value :: more = (new.map write).toList) :
    ∃ a, once old (read value) = .ok (some a) ∧
      [write a] = (old.map write).toList ++ [value] := by
  cases new with
  | none => simp at front
  | some a =>
      cases old with
      | some b => simp at front
      | none =>
          obtain ⟨rfl, -⟩ := List.cons_eq_cons.1 front
          exact ⟨a, by rw [fits a rfl]; rfl, rfl⟩

/-- Every path but the empty one is taken as it is. -/
theorem path?_of_ne_nil {path : Text} (named : path ≠ []) : path? path = .ok path :=
  if_neg named

/-- A number of 64 bits is read from its decimal form. -/
theorem number?_print {n : Nat} (small : n ≤ Decimal.limit) :
    number? (Decimal.print n) = .ok n := by
  rw [number?, Decimal.read?_eq_some_iff.2 ⟨Decimal.numeral_print n, small⟩]

end Arguments

/-! ### One argument after the other -/

namespace Options

variable {o o₀ written : Options} {arguments : List Said}

/-- The next value of an option is taken up, and the other options stay as they are. -/
theorem assign_of_values (sayable : o.Sayable) {option : Valued} {value : Text} {more : List Text}
    (front : o₀.values option ++ value :: more = o.values option) :
    ∃ o₁, Arguments.assign o₀ option value = .ok o₁ ∧ o₁.warnings = o₀.warnings ∧
      o₁.values option = o₀.values option ++ [value] ∧
      ∀ other ≠ option, o₁.values other = o₀.values other := by
  cases option with
  | flag => exact ⟨_, rfl, rfl, rfl, by rintro (_ | _) other <;> first | rfl | contradiction⟩
  | interpreter =>
      obtain ⟨text, taken, same⟩ := Arguments.once_of_values id
        (fun path hpath => Arguments.path?_of_ne_nil (sayable.interpreter path hpath))
        (by simpa [values] using front)
      exact ⟨{ o₀ with interpreter := some text }, by rw [Arguments.assign, taken]; rfl, rfl,
        by simpa [values] using same, by rintro (_ | _) other <;> first | rfl | contradiction⟩
  | config =>
      obtain ⟨text, taken, same⟩ := Arguments.once_of_values id
        (fun path hpath => Arguments.path?_of_ne_nil (sayable.config path hpath))
        (by simpa [values] using front)
      exact ⟨{ o₀ with config := some text }, by rw [Arguments.assign, taken]; rfl, rfl,
        by simpa [values] using same, by rintro (_ | _) other <;> first | rfl | contradiction⟩
  | logLevel =>
      obtain ⟨text, taken, same⟩ := Arguments.once_of_values id
        (fun _ _ => rfl) (by simpa [values] using front)
      exact ⟨{ o₀ with logLevel := some text }, by rw [Arguments.assign, taken]; rfl, rfl,
        by simpa [values] using same, by rintro (_ | _) other <;> first | rfl | contradiction⟩
  | interval =>
      obtain ⟨n, taken, printed⟩ := Arguments.once_of_values Decimal.print
        (fun n hn => Arguments.number?_print (sayable.interval n hn)) front
      exact ⟨{ o₀ with interval := some n }, by rw [Arguments.assign, taken]; rfl, rfl, printed,
        by rintro (_ | _) other <;> first | rfl | contradiction⟩
  | grace =>
      obtain ⟨n, taken, printed⟩ := Arguments.once_of_values Decimal.print
        (fun n hn => Arguments.number?_print (sayable.grace n hn)) front
      exact ⟨{ o₀ with grace := some n }, by rw [Arguments.assign, taken]; rfl, rfl, printed,
        by rintro (_ | _) other <;> first | rfl | contradiction⟩
  | cap =>
      obtain ⟨n, taken, printed⟩ := Arguments.once_of_values Decimal.print
        (fun n hn => Arguments.number?_print (sayable.cap n hn)) front
      exact ⟨{ o₀ with cap := some n }, by rw [Arguments.assign, taken]; rfl, rfl, printed,
        by rintro (_ | _) other <;> first | rfl | contradiction⟩
  | limit =>
      obtain ⟨n, taken, printed⟩ := Arguments.once_of_values Decimal.print
        (fun n hn => Arguments.number?_print (sayable.limit n hn)) front
      exact ⟨{ o₀ with limit := some n }, by rw [Arguments.assign, taken]; rfl, rfl, printed,
        by rintro (_ | _) other <;> first | rfl | contradiction⟩

/-- What may be missing is known by the list of it. -/
theorem toList_injective {α : Type} {a b : Option α} (h : a.toList = b.toList) : a = b := by
  cases a <;> cases b <;> simp_all

/-- A number is known by its decimal form. -/
theorem map_print_injective {a b : Option Nat}
    (h : (a.map Decimal.print).toList = (b.map Decimal.print).toList) : a = b := by
  refine Option.map_injective (fun m n same => ?_) (toList_injective h)
  have read := Decimal.digits?_print m
  rw [same, Decimal.digits?_print] at read
  exact (Option.some.inj read).symm

/-- Options are told by their values and by whether there shall be warnings. -/
theorem eq_of_values (same : ∀ option, o₀.values option = o.values option)
    (warnings : o₀.warnings = o.warnings) : o₀ = o := by
  have interpreter := toList_injective (same .interpreter)
  have flags := same .flag
  have interval := map_print_injective (same .interval)
  have grace := map_print_injective (same .grace)
  have cap := map_print_injective (same .cap)
  have limit := map_print_injective (same .limit)
  have config := toList_injective (same .config)
  have logLevel := toList_injective (same .logLevel)
  cases o₀
  cases o
  simp_all [values]

/-- Some options have been taken up, and some arguments say the rest. -/
structure Completes (o₀ : Options) (arguments : List Said) (o : Options) : Prop where
  values : ∀ option, o₀.values option ++ arguments.filterMap (Said.value? option) = o.values option
  warnings : o₀.warnings.toNat + arguments.countP Said.warns = o.warnings.toNat

/-- Arguments that say the rest of the options are taken up one by one, and that is all. -/
theorem foldlM_take (sayable : o.Sayable) (h : Completes o₀ arguments o) :
    arguments.foldlM Said.take o₀ = .ok o := by
  induction arguments generalizing o₀ with
  | nil =>
      have warnings : o₀.warnings = o.warnings := by
        have count := h.warnings
        cases hold : o₀.warnings <;> cases hnew : o.warnings <;> simp_all
      rw [eq_of_values (fun option => by simpa using h.values option) warnings]
      rfl
  | cons s arguments ih =>
      rw [List.foldlM_cons]
      rcases s.gives_or_warns with ⟨option, value, rfl⟩ | warns
      · have next := h.values option
        rw [List.filterMap_cons_some (Said.value?_gives_self option value)] at next
        obtain ⟨o₁, taken, warnings, own, others⟩ := assign_of_values sayable next
        rw [Said.take, taken]
        refine ih ⟨fun other => ?_, ?_⟩
        · by_cases same : other = option
          · rw [same, own, List.append_assoc, List.singleton_append, next]
          · rw [others other same, ← h.values other,
              List.filterMap_cons_none (Said.value?_gives_of_ne (Ne.symm same) value)]
        · rw [warnings, ← h.warnings, List.countP_cons_of_neg (by simp [Said.warns])]
      · have count := h.warnings
        rw [List.countP_cons_of_pos warns] at count
        have off : o₀.warnings = false := by
          cases hold : o₀.warnings with
          | false => rfl
          | true =>
              have most := Bool.toNat_le o.warnings
              rw [hold, Bool.toNat_true] at count
              omega
        rw [Said.take_of_warns warns off]
        refine ih ⟨fun option => ?_, ?_⟩
        · rw [← h.values option, List.filterMap_cons_none (Said.value?_of_warns warns option)]
          cases option <;> rfl
        · rw [← count, off, Bool.toNat_true, Bool.toNat_false]
          omega

/-! ### All arguments -/

/-- An option that is no flag has one value at most. -/
theorem exists_values_eq (o : Options) {option : Valued} (single : option ≠ .flag) :
    ∃ value : Option Text, o.values option = value.toList := by
  cases option <;> first | exact ⟨_, rfl⟩ | contradiction

/-- What the options say gives each of them its values. -/
theorem filterMap_said {word : Said} (warns : word.warns = true) (o : Options) (option : Valued) :
    (o.said word).filterMap (Said.value? option) = o.values option := by
  have rest : (if o.warnings then [word] else []).filterMap (Said.value? option) = [] := by
    split <;> simp [Said.value?_of_warns warns]
  have own (other : Valued) : ((o.values other).map (Said.gives other)).filterMap
      (Said.value? option) = if other = option then o.values option else [] := by
    split
    · next same => rw [same, Said.filterMap_gives]
    · next ne =>
        rw [List.filterMap_map]
        exact List.filterMap_eq_nil_iff.2 fun value _ => Said.value?_gives_of_ne ne value
  rw [said, List.filterMap_append, rest, List.append_nil, List.filterMap_flatMap]
  simp only [own]
  cases option <;> simp [Valued.all]

/-- What the options say asks for warnings once, or not at all. -/
theorem countP_said {word : Said} (warns : word.warns = true) (o : Options) :
    (o.said word).countP Said.warns = o.warnings.toNat := by
  have given : (Valued.all.flatMap fun option => (o.values option).map (Said.gives option)).countP
      Said.warns = 0 := by
    rw [List.countP_eq_zero]
    intro s hs
    obtain ⟨option, -, hs⟩ := List.mem_flatMap.1 hs
    obtain ⟨value, -, rfl⟩ := List.mem_map.1 hs
    exact Bool.false_ne_true
  rw [said, List.countP_append, given, Nat.zero_add]
  cases o.warnings <;> simp [warns]

/-- Options that differ in no more than in a log level that is filled in. -/
theorem values_of_settled (same : written.settled = o.settled) {option : Valued}
    (other : option ≠ .logLevel) : written.values option = o.values option := by
  have all : written.settled.values option = o.settled.values option := by rw [same]
  cases option <;> first | exact all | contradiction

/-- Filling in the log level makes no difference to what fits on a command line. -/
theorem sayable_settled : o.settled.Sayable ↔ o.Sayable :=
  ⟨fun h => ⟨h.interpreter, h.interval, h.grace, h.cap, h.limit, h.config⟩,
    fun h => ⟨h.interpreter, h.interval, h.grace, h.cap, h.limit, h.config⟩⟩

/-- Arguments that say the options give each option its values in their order. There is only one
order for a single value, and the flags stand in theirs. -/
theorem SaidBy.completes (said : o.SaidBy arguments) :
    ∃ written : Options, written.settled = o.settled ∧ Completes {} arguments written := by
  obtain ⟨written, word, same, warns, perm⟩ := said.each
  refine ⟨written, same, fun option => ?_, ?_⟩
  · have given : (arguments.filterMap (Said.value? option)).Perm (written.values option) :=
      filterMap_said warns written option ▸ perm.filterMap _
    have nothing : ({} : Options).values option = [] := by cases option <;> rfl
    rw [nothing, List.nil_append]
    by_cases single : option = .flag
    · subst single
      have single : Valued.flag ≠ .logLevel := by decide
      have flags : ((o.flags.map (Said.gives .flag)).filterMap (Said.value? .flag)).Sublist
          (arguments.filterMap (Said.value? .flag)) := said.ordered.filterMap _
      rw [Said.filterMap_gives] at flags
      rw [values_of_settled same single] at given ⊢
      exact (flags.eq_of_length given.length_eq.symm).symm
    · obtain ⟨value, hvalue⟩ := exists_values_eq written single
      rw [hvalue] at given ⊢
      cases value with
      | none => exact given.eq_nil
      | some value => exact List.perm_singleton.1 given
  · rw [perm.countP_eq, countP_said warns]
    exact Nat.zero_add _

/-- **What is said is read.** Whatever the options are, and whatever their values look like, the
arguments that say them are read, in every order that keeps the flags in theirs, and what is read is
these options and nothing else. -/
theorem parse_saidBy (sayable : o.Sayable) (said : o.SaidBy arguments) :
    ∃ read : Options, Arguments.parse .options (arguments.map Said.argument) =
      .ok { options := read } ∧ read.settled = o.settled := by
  obtain ⟨written, same, completes⟩ := said.completes
  have sayable : written.Sayable := sayable_settled.1 (same ▸ sayable_settled.2 sayable)
  have taken : (arguments.map Said.argument).foldlM (Arguments.Reading.step .options) {} =
      .ok (.having written) := Arguments.foldlM_step (foldlM_take sayable completes)
  refine ⟨written, ?_, same⟩
  rw [Arguments.parse, taken]
  rfl

/-- Values that look like other options, with warnings asked for by the letter and the log level
left out. -/
theorem parse_saidBy_disguised :
    let o : Options := {
      interpreter := some "-w".toList
      flags := ["-Ilib".toList, "--config=x".toList, "".toList]
      interval := some 18446744073709551615
      config := some "--json=a b=".toList
      warnings := true }
    let arguments : List Said :=
      [.gives .flag "-Ilib".toList, .gives .config "--json=a b=".toList, .letter,
        .gives .flag "--config=x".toList, .gives .interval "18446744073709551615".toList,
        .gives .flag "".toList, .gives .interpreter "-w".toList]
    arguments.map Said.argument =
        ["--interpreter-flag=-Ilib", "--config=--json=a b=", "-w", "--interpreter-flag=--config=x",
          "--interval-ms=18446744073709551615", "--interpreter-flag=",
          "--interpreter=-w"].map String.toList ∧
      o.Sayable ∧ o.SaidBy arguments ∧
      ∃ read : Options, Arguments.parse .options (arguments.map Said.argument) =
        .ok { options := read } ∧ read.settled = o.settled := by
  intro o arguments
  have sayable : o.Sayable := ⟨by decide, by decide, by decide, by decide, by decide, by decide⟩
  have said : o.SaidBy arguments := ⟨⟨o, .letter, rfl, rfl, by decide⟩, by decide⟩
  exact ⟨by decide, sayable, said, parse_saidBy sayable said⟩

end Options

end SyntaxWatch
