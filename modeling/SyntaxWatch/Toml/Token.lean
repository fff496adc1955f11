import SyntaxWatch.Text.Radix

/-!
# Tokens of TOML

A TOML document is read as a sequence of tokens, one character at a time. Strings come in four
kinds: between double quotes, where a backslash begins an escape, or between single quotes, where
it does not; and between one quote of its kind on either side, on one line, or between three, over
any number of lines. Blanks and comments between tokens are skipped.

## Main definitions

* `Toml.Token`: the tokens.
* `Toml.Scan`: what is being read, from one character to the next.
* `Toml.Token.ofText?`: the tokens of a document.
-/

namespace SyntaxWatch.Toml

/-- A token of a document. -/
inductive Token where
  | newline
  | equals
  | comma
  /-- The bracket that opens a list. -/
  | opening
  /-- The bracket that closes a list. -/
  | closing
  /-- A run of characters that belong to no other token: a bare key, a number, a truth value. -/
  | word (text : Text)
  /-- A string on one line. -/
  | string (text : Text)
  /-- A string between three quotes on either side. -/
  | block (text : Text)
  deriving DecidableEq, Repr

/-- The two kinds of quotes. Only double quotes allow escapes. -/
inductive Quote where
  | double
  | single
  deriving DecidableEq, Repr

/-- The character of a quote. -/
def Quote.char : Quote → Char
  | double => '"'
  | single => '\''

/-- Whether a character may stand in a comment or for itself in a string. Control characters may
not, the tabulator apart. -/
def isPlain (c : Char) : Bool :=
  c = '\t' || (0x20 ≤ c.toNat && c.toNat ≠ 0x7F)

/-- What is being read. Texts are what has been read of a token. -/
inductive Scan where
  /-- Between tokens. -/
  | between
  | word (text : Text)
  | comment
  /-- Behind the first quote of a string. -/
  | opened (quote : Quote)
  /-- Behind two quotes, which may be an empty string or the start of a block. -/
  | paired (quote : Quote)
  | line (quote : Quote) (text : Text)
  /-- Behind the three quotes that open a block. A newline here does not count. -/
  | blockStart (quote : Quote)
  /-- Inside a block, behind a number of quotes that may close it. -/
  | block (quote : Quote) (text : Text) (quotes : Nat)
  /-- Behind a backslash. -/
  | escape (inBlock : Bool) (text : Text)
  /-- Inside an escape by number, with the digits still to come and the value so far. -/
  | code (inBlock : Bool) (text : Text) (missing : Nat) (value : Nat)
  /-- Behind a backslash that joins lines, before the newline. -/
  | joining (text : Text)
  /-- Behind a backslash that joins lines and the newline. -/
  | joined (text : Text)
  deriving DecidableEq, Repr

namespace Scan

/-- Reads a character between tokens: what is being read then, and the token that is complete. -/
def start (c : Char) : Option (Scan × List Token) :=
  match c with
  | ' ' | '\t' | '\r' => some (between, [])
  | '\n' => some (between, [.newline])
  | '=' => some (between, [.equals])
  | ',' => some (between, [.comma])
  | '[' => some (between, [.opening])
  | ']' => some (between, [.closing])
  | '#' => some (comment, [])
  | '"' => some (opened .double, [])
  | '\'' => some (opened .single, [])
  | _ => some (word [c], [])

/-- Completes a token and reads a character behind it. -/
def complete (token : Token) (c : Char) : Option (Scan × List Token) :=
  (start c).map fun (next, tokens) => (next, token :: tokens)

/-- Whether a character ends a word. -/
def endsWord (c : Char) : Bool :=
  [' ', '\t', '\r', '\n', '=', ',', '[', ']', '#', '"', '\''].contains c

/-- Reads a character of a string on one line. -/
def inLine (quote : Quote) (text : Text) (c : Char) : Option (Scan × List Token) :=
  if c = quote.char then some (between, [.string text])
  else if c = '\\' ∧ quote = .double then some (escape false text, [])
  else if isPlain c then some (line quote (text ++ [c]), [])
  else none

/-- Reads a character of a block that does not belong to the quotes that may close it. -/
def inBlock (quote : Quote) (text : Text) (c : Char) : Option (Scan × List Token) :=
  if c = quote.char then some (block quote text 1, [])
  else if c = '\\' ∧ quote = .double then some (escape true text, [])
  else if isPlain c || c = '\n' || c = '\r' then some (block quote (text ++ [c]) 0, [])
  else none

/-- Goes on with the string in which an escape stood. -/
def resume (inBlock : Bool) (text : Text) : Scan :=
  if inBlock then block .double text 0 else line .double text

/-- Reads the character behind a backslash. In a block a blank joins lines. -/
def escaped (inBlock : Bool) (text : Text) (c : Char) : Option (Scan × List Token) :=
  let char (d : Char) : Option (Scan × List Token) := some (resume inBlock (text ++ [d]), [])
  match c with
  | 'b' => char '\x08'
  | 't' => char '\t'
  | 'n' => char '\n'
  | 'f' => char '\x0C'
  | 'r' => char '\r'
  | 'e' => char '\x1B'
  | '"' => char '"'
  | '\\' => char '\\'
  | 'x' => some (code inBlock text 2 0, [])
  | 'u' => some (code inBlock text 4 0, [])
  | 'U' => some (code inBlock text 8 0, [])
  | ' ' | '\t' | '\r' => if inBlock then some (joining text, []) else none
  | '\n' => if inBlock then some (joined text, []) else none
  | _ => none

/-- Reads a digit of an escape by number. With the last one the number has to be that of a
character. -/
def inCode (inBlock : Bool) (text : Text) (missing value : Nat) (c : Char) :
    Option (Scan × List Token) := do
  let digit ← Radix.digit? 16 c
  let value := value * 16 + digit
  if 1 < missing then
    return (code inBlock text (missing - 1) value, [])
  else if value.isValidChar then
    return (resume inBlock (text ++ [Char.ofNat value]), [])
  else
    none

/-- Reads one character: what is being read then, and the tokens that are complete. -/
def step (scan : Scan) (c : Char) : Option (Scan × List Token) :=
  match scan with
  | between => start c
  | word text => if endsWord c then complete (.word text) c else some (word (text ++ [c]), [])
  | comment =>
    if c = '\n' then some (between, [.newline])
    else if isPlain c || c = '\r' then some (comment, [])
    else none
  | opened quote => if c = quote.char then some (paired quote, []) else inLine quote [] c
  | paired quote =>
    if c = quote.char then some (blockStart quote, []) else complete (.string []) c
  | line quote text => inLine quote text c
  | blockStart quote =>
    if c = '\n' then some (block quote [] 0, [])
    else if c = '\r' then some (blockStart quote, [])
    else inBlock quote [] c
  | block quote text quotes =>
    if quotes = 0 then inBlock quote text c
    else if c = quote.char then
      if quotes < 5 then some (block quote text (quotes + 1), []) else none
    else if quotes < 3 then inBlock quote (text ++ List.replicate quotes quote.char) c
    else complete (.block (text ++ List.replicate (quotes - 3) quote.char)) c
  | escape inBlock text => escaped inBlock text c
  | code inBlock text missing value => inCode inBlock text missing value c
  | joining text =>
    if c = ' ' ∨ c = '\t' ∨ c = '\r' then some (joining text, [])
    else if c = '\n' then some (joined text, [])
    else none
  | joined text =>
    if c = ' ' ∨ c = '\t' ∨ c = '\r' ∨ c = '\n' then some (joined text, [])
    else inBlock .double text c

/-- The token that the end of the document completes. Inside a string there is no end. -/
def finish : Scan → Option (List Token)
  | between => some []
  | comment => some []
  | word text => some [.word text]
  | paired _ => some [.string []]
  | block quote text quotes =>
    if quotes < 3 then none
    else some [.block (text ++ List.replicate (quotes - 3) quote.char)]
  | _ => none

/-- Reads the rest of a document. -/
def run : Scan → Text → Option (List Token)
  | scan, [] => scan.finish
  | scan, c :: rest => do
    let (next, tokens) ← scan.step c
    return tokens ++ (← run next rest)

end Scan

/-- Whether every carriage return stands before a newline. -/
def returnsPaired : Text → Bool
  | [] => true
  | '\r' :: rest => rest.head? == some '\n' && returnsPaired rest
  | _ :: rest => returnsPaired rest

/-- The tokens of a document. A byte order mark in front of it does not count. -/
def Token.ofText? (text : Text) : Option (List Token) :=
  let text := match text with
    | '\uFEFF' :: rest => rest
    | _ => text
  if returnsPaired text then Scan.between.run text else none

end SyntaxWatch.Toml
