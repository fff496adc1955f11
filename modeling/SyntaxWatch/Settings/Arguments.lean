import SyntaxWatch.Text.Decimal

/-!
# Command-line arguments

Reads the arguments of a command line. Options have long names, written `--name value` or
`--name=value`; switches take no value, and some have a letter, which may be joined to others.
Everything after `--` is no option.

A value in an argument of its own is taken up only when the next option, switch or file is read,
or when the arguments are at their end; a fault that is found before that wins.

## Main definitions

* `Options`: what the options say.
* `Grammar`: which switches there are, and whether a file is named.
* `Arguments.parse`: reads a command line.
-/

namespace SyntaxWatch

/-- The options that take a value. -/
inductive Valued where
  | interpreter
  | flag
  | interval
  | grace
  | cap
  | limit
  | config
  | logLevel
  deriving DecidableEq, Repr

namespace Valued

/-- The options that take a value, one by one. -/
def all : List Valued :=
  [interpreter, flag, interval, grace, cap, limit, config, logLevel]

/-- The long name of an option. -/
def name : Valued → Text
  | interpreter => "interpreter".toList
  | flag => "interpreter-flag".toList
  | interval => "interval-ms".toList
  | grace => "termination-grace-ms".toList
  | cap => "max-diagnostics".toList
  | limit => "check-timeout-ms".toList
  | config => "config".toList
  | logLevel => "log-level".toList

/-- The option with a long name. -/
def ofName? (text : Text) : Option Valued :=
  all.find? (·.name == text)

/-- Whether an option takes the next argument for its value whatever that looks like. -/
def isGreedy (option : Valued) : Bool :=
  option == flag

end Valued

/-- The switches, which take no value. -/
inductive Switch where
  | warnings
  | watch
  | json
  | help
  | version
  deriving DecidableEq, Repr

namespace Switch

/-- The long name of a switch. -/
def name : Switch → Text
  | warnings => "warnings".toList
  | watch => "watch".toList
  | json => "json".toList
  | help => "help".toList
  | version => "version".toList

/-- The letter of a switch. -/
def letter? : Switch → Option Char
  | warnings => some 'w'
  | help => some 'h'
  | version => some 'V'
  | watch => none
  | json => none

end Switch

/-- What a command line may hold beside the options that take a value. -/
structure Grammar where
  switches : List Switch
  takesFile : Bool := false
  deriving DecidableEq, Repr

namespace Grammar

/-- The options alone. -/
def options : Grammar where
  switches := [.warnings, .help]

/-- The command line of the language server. -/
def server : Grammar where
  switches := [.warnings, .help, .version]

/-- The command line that checks a file. -/
def console : Grammar where
  switches := [.warnings, .watch, .json, .help, .version]
  takesFile := true

/-- The switch with a long name. -/
def named? (g : Grammar) (text : Text) : Option Switch :=
  g.switches.find? (·.name == text)

/-- The switch with a letter. -/
def lettered? (g : Grammar) (c : Char) : Option Switch :=
  g.switches.find? (·.letter? == some c)

end Grammar

/-- What the options of a command line say. -/
structure Options where
  interpreter : Option Text := none
  flags : List Text := []
  interval : Option Nat := none
  grace : Option Nat := none
  cap : Option Nat := none
  warnings : Bool := false
  limit : Option Nat := none
  config : Option Text := none
  logLevel : Option Text := none
  deriving DecidableEq, Repr

/-- The log level when no option sets it. -/
def Options.defaultLogLevel : Text := "info".toList

/-- Why a command line is refused, or answered at once. -/
inductive ArgumentFault where
  /-- There is no such option, or nothing that is no option is expected. -/
  | unknown
  /-- A value is missing, or empty where it must not be. -/
  | invalidValue
  /-- A value is no number of 64 bits. -/
  | notANumber
  /-- Something is given twice. -/
  | conflict
  /-- A value is given to a switch. -/
  | tooManyValues
  /-- No file is named. -/
  | missingFile
  /-- The help text is asked for. -/
  | help
  /-- The version is asked for. -/
  | version
  deriving DecidableEq, Repr

/-- What a command line says. -/
structure Arguments where
  options : Options := {}
  watch : Bool := false
  json : Bool := false
  file : Option Text := none
  deriving DecidableEq, Repr

namespace Arguments

/-- The value of a path option. It must not be empty. -/
def path? (value : Text) : Except ArgumentFault Text :=
  if value = [] then .error .invalidValue else .ok value

/-- The value of a number option. -/
def number? (value : Text) : Except ArgumentFault Nat :=
  match Decimal.read? value with
  | some n => .ok n
  | none => .error .notANumber

/-- Fills in a value that can be given once. -/
def once {α : Type} (old : Option α) (new : Except ArgumentFault α) :
    Except ArgumentFault (Option α) :=
  if old.isSome then .error .conflict else new.map some

/-- Takes up the value of an option. -/
def assign (o : Options) (option : Valued) (value : Text) : Except ArgumentFault Options :=
  match option with
  | .interpreter => return { o with interpreter := ← once o.interpreter (path? value) }
  | .flag => return { o with flags := o.flags ++ [value] }
  | .interval => return { o with interval := ← once o.interval (number? value) }
  | .grace => return { o with grace := ← once o.grace (number? value) }
  | .cap => return { o with cap := ← once o.cap (number? value) }
  | .limit => return { o with limit := ← once o.limit (number? value) }
  | .config => return { o with config := ← once o.config (path? value) }
  | .logLevel => return { o with logLevel := ← once o.logLevel (.ok value) }

/-- Where the reading of a command line stands: what was taken up, the option whose value is still
to be taken up, and whether `--` has been read. -/
structure Reading where
  taken : Arguments := {}
  pending : Option (Valued × Option Text) := none
  literal : Bool := false
  deriving DecidableEq, Repr

/-- The option that waits for its value. -/
def Reading.waiting? (r : Reading) : Option Valued :=
  match r.pending with
  | some (option, none) => some option
  | _ => none

/-- Takes up what is pending. An option without its value is refused. -/
def Reading.settle (r : Reading) : Except ArgumentFault Reading :=
  match r.pending with
  | none => .ok r
  | some (_, none) => .error .invalidValue
  | some (option, some value) => do
    let options ← assign r.taken.options option value
    return { r with taken := { r.taken with options }, pending := none }

/-- Reads an option, with its value when that is part of the argument. -/
def Reading.valued (r : Reading) (option : Valued) (value : Option Text) :
    Except ArgumentFault Reading := do
  let r ← r.settle
  match value with
  | none => return { r with pending := some (option, none) }
  | some value =>
    let options ← assign r.taken.options option value
    return { r with taken := { r.taken with options } }

/-- Reads a switch. -/
def Reading.switched (r : Reading) (switch : Switch) : Except ArgumentFault Reading := do
  let r ← r.settle
  let a := r.taken
  match switch with
  | .warnings =>
    if a.options.warnings then .error .conflict
    else return { r with taken := { a with options := { a.options with warnings := true } } }
  | .watch =>
    if a.watch then .error .conflict
    else return { r with taken := { a with watch := true } }
  | .json =>
    if a.json then .error .conflict
    else return { r with taken := { a with json := true } }
  | .help => .error .help
  | .version => .error .version

/-- Reads the long name of an option or a switch, with the value behind the equals sign. -/
def Reading.long (g : Grammar) (r : Reading) (name : Text) (value : Option Text) :
    Except ArgumentFault Reading :=
  match Valued.ofName? name with
  | some option => r.valued option value
  | none =>
    match g.named? name, value with
    | some switch, none => r.switched switch
    | some _, some _ => .error .tooManyValues
    | none, _ => .error .unknown

/-- Reads the letters of switches. -/
def Reading.short (g : Grammar) (r : Reading) (letters : Text) : Except ArgumentFault Reading :=
  letters.foldlM (fun r c => match g.lettered? c with
    | some switch => r.switched switch
    | none => .error .unknown) r

/-- Reads an argument that is no option: the file, if there is one to name. -/
def Reading.positional (g : Grammar) (r : Reading) (value : Text) : Except ArgumentFault Reading :=
  if g.takesFile && r.taken.file.isNone then do
    let r ← r.settle
    let file ← path? value
    return { r with taken := { r.taken with file := some file } }
  else
    .error .unknown

/-- Reads an argument that does not look like an option: the value that is waited for, or the
file. -/
def Reading.plain (g : Grammar) (r : Reading) (value : Text) : Except ArgumentFault Reading :=
  match r.waiting? with
  | some option => .ok { r with pending := some (option, some value) }
  | none => r.positional g value

/-- The shape of an argument. -/
inductive Shape where
  | escape
  | long (name : Text) (value : Option Text)
  | short (letters : Text)
  | plain
  deriving DecidableEq, Repr

/-- The shape of an argument. A single hyphen is plain. -/
def Shape.of : Text → Shape
  | ['-', '-'] => .escape
  | '-' :: '-' :: rest =>
    let name := rest.takeWhile (· ≠ '=')
    match rest.dropWhile (· ≠ '=') with
    | [] => .long name none
    | _ :: value => .long name (some value)
  | '-' :: c :: rest => .short (c :: rest)
  | _ => .plain

/-- Reads one argument. An option that takes anything for its value takes it here. -/
def Reading.step (g : Grammar) (r : Reading) (argument : Text) : Except ArgumentFault Reading :=
  if r.literal then
    r.positional g argument
  else if r.waiting?.any Valued.isGreedy then
    r.plain g argument
  else
    match Shape.of argument with
    | .escape => .ok { r with literal := true }
    | .long name value => r.long g name value
    | .short letters => r.short g letters
    | .plain => r.plain g argument

/-- Reads a command line. -/
def parse (g : Grammar) (arguments : List Text) : Except ArgumentFault Arguments := do
  let read ← arguments.foldlM (Reading.step g) {}
  let done ← read.settle
  if g.takesFile && done.taken.file.isNone then .error .missingFile else return done.taken

end Arguments

end SyntaxWatch
