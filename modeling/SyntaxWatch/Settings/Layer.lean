import SyntaxWatch.Text.Decimal
import SyntaxWatch.Toml.Entry

/-!
# Layers of settings

What one settings file says. Every key may be absent, and a layer laid over another one wins
wherever it says something.

## Main definitions

* `Layer`: what a file says.
* `Layer.above`: one layer laid over another.
* `Layer.ofToml?`: the layer that a document spells.
-/

namespace SyntaxWatch

/-- What a settings file says. -/
structure Layer where
  interpreter : Option Text := none
  flags : Option (List Text) := none
  interval : Option Nat := none
  grace : Option Nat := none
  cap : Option Nat := none
  warnings : Option Bool := none
  limit : Option Nat := none
  deriving DecidableEq, Repr

namespace Layer

/-- A layer laid over a lower one. Where it says nothing, the lower one shows. -/
def above (higher lower : Layer) : Layer where
  interpreter := higher.interpreter <|> lower.interpreter
  flags := higher.flags <|> lower.flags
  interval := higher.interval <|> lower.interval
  grace := higher.grace <|> lower.grace
  cap := higher.cap <|> lower.cap
  warnings := higher.warnings <|> lower.warnings
  limit := higher.limit <|> lower.limit

/-- The number of 64 bits without a sign that a value is. -/
def number? : Toml.Value → Option Nat
  | .integer (.ofNat n) => if n ≤ Decimal.limit then some n else none
  | _ => none

/-- The text that a value is. -/
def text? : Toml.Value → Option Text
  | .string text => some text
  | _ => none

/-- The list of texts that a value is. -/
def texts? : Toml.Value → Option (List Text)
  | .strings texts => some texts
  | _ => none

/-- The truth value that a value is. -/
def truth? : Toml.Value → Option Bool
  | .boolean b => some b
  | _ => none

/-- The keys of a settings file. -/
inductive Key where
  | interpreter
  | flags
  | interval
  | grace
  | cap
  | warnings
  | limit
  deriving DecidableEq, Repr

namespace Key

/-- The keys, one by one. -/
def all : List Key :=
  [interpreter, flags, interval, grace, cap, warnings, limit]

/-- The name of a key. -/
def name : Key → Text
  | interpreter => "interpreter".toList
  | flags => "interpreter_flags".toList
  | interval => "interval_ms".toList
  | grace => "termination_grace_ms".toList
  | cap => "max_diagnostics".toList
  | warnings => "warnings".toList
  | limit => "check_timeout_ms".toList

/-- The key with a name. -/
def ofName? (text : Text) : Option Key :=
  all.find? (·.name == text)

end Key

/-- A layer with one more key. The value has to be of the kind that the key asks for. -/
def set? (l : Layer) (key : Key) (value : Toml.Value) : Option Layer :=
  match key with
  | .interpreter => (text? value).map fun v => { l with interpreter := some v }
  | .flags => (texts? value).map fun v => { l with flags := some v }
  | .interval => (number? value).map fun v => { l with interval := some v }
  | .grace => (number? value).map fun v => { l with grace := some v }
  | .cap => (number? value).map fun v => { l with cap := some v }
  | .warnings => (truth? value).map fun v => { l with warnings := some v }
  | .limit => (number? value).map fun v => { l with limit := some v }

/-- The layer of a list of entries. Keys are known and stand once. -/
def ofEntries? (entries : List (Text × Toml.Value)) : Option Layer :=
  if (entries.map (·.1)).Nodup then
    entries.foldlM (fun l (name, value) => do l.set? (← Key.ofName? name) value) {}
  else
    none

/-- The layer that a document spells. -/
def ofToml? (text : Text) : Option Layer :=
  (Toml.entries? text).bind ofEntries?

end Layer

end SyntaxWatch
