import SyntaxWatch.Digest.Sha256

/-!
# What is remembered between cycles

A cycle that would check the text of the last one again need not run the checker, and one that
gets the output of the last one again need not show it. For this the last text and the digest of
the last output are remembered.

## Main definitions

* `Recall`: the last text and the digest of the last output.
* `Recall.knowsText`, `Recall.knowsOutput`: whether they are the same again.
-/

namespace SyntaxWatch

/-- The last text that was checked and the digest of the last output. -/
structure Recall where
  text : Option Text := none
  output : Option Digest := none
  deriving DecidableEq

namespace Recall

/-- Whether a text is the last one again. -/
def knowsText (r : Recall) (text : Text) : Bool :=
  r.text == some text

/-- Whether an output has the digest of the last one. -/
def knowsOutput (r : Recall) (output : Text) : Bool :=
  r.output == some (Digest.ofText output)

/-- Remembers a text as the last one. -/
def withText (r : Recall) (text : Text) : Recall :=
  { r with text := some text }

/-- Remembers an output as the last one. -/
def withOutput (r : Recall) (output : Text) : Recall :=
  { r with output := some (Digest.ofText output) }

/-- Nothing remembered: neither the next text nor the next output is known. -/
def empty : Recall := {}

/-! ### What is known after what -/

@[simp] theorem knowsText_empty (text : Text) : empty.knowsText text = false := rfl

@[simp] theorem knowsOutput_empty (output : Text) : empty.knowsOutput output = false := rfl

@[simp] theorem knowsText_withText (r : Recall) (first second : Text) :
    (r.withText first).knowsText second = true ↔ first = second := by
  simp [knowsText, withText]

@[simp] theorem knowsOutput_withText (r : Recall) (text output : Text) :
    (r.withText text).knowsOutput output = r.knowsOutput output := rfl

@[simp] theorem knowsText_withOutput (r : Recall) (output text : Text) :
    (r.withOutput output).knowsText text = r.knowsText text := rfl

@[simp] theorem knowsOutput_withOutput (r : Recall) (first second : Text) :
    (r.withOutput first).knowsOutput second = true ↔
      Digest.ofText first = Digest.ofText second := by
  simp [knowsOutput, withOutput]

end Recall

end SyntaxWatch
