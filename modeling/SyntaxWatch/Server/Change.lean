import SyntaxWatch.Server.Message
import SyntaxWatch.Server.Vocabulary

/-!
# Changes of documents

What an editor reports about the documents that it has open. A report whose parameters do not have
the right shape is no report.

## Main definitions

* `Change`: the reports.
* `ChangeKind.params`: the shapes of their parameters.
* `Change.ofParams?`: the report of a method with its parameters.
-/

namespace SyntaxWatch

/-- What an editor reports about a document. -/
inductive Change where
  /-- The document was opened with a text. -/
  | opened (uri : Uri) (text : Text)
  /-- The document has had these texts, one after the other. -/
  | edited (uri : Uri) (texts : List Text)
  /-- The document was saved, with its text when the editor tells it. -/
  | saved (uri : Uri) (text : Option Text)
  /-- The document was closed. -/
  | closed (uri : Uri)

/-- The kinds of reports. -/
inductive ChangeKind where
  | opening
  | editing
  | saving
  | closing
  deriving DecidableEq, Repr

open Shape in
/-- The shape of the parameters of a report. An edit replaces the whole document, even when it
names a range. -/
def ChangeKind.params : ChangeKind → Shape
  | opening => record "DidOpenTextDocumentParams" [
      ("textDocument", record "TextDocumentItem" [
        ("uri", uri), ("languageId", string), ("version", signed), ("text", string)])]
  | editing => record "DidChangeTextDocumentParams" [
      ("textDocument", versioned),
      ("contentChanges", list (record "TextDocumentContentChangeEvent" [
        may "range" range, may "rangeLength" count, ("text", string)]))]
  | saving => record "DidSaveTextDocumentParams" [
      ("textDocument", document), may "text" string]
  | closing => record "DidCloseTextDocumentParams" [("textDocument", document)]

namespace Change

/-- The text of a field. -/
def textField? (name : String) (j : Json) : Option Text :=
  (j.field? name).bind Json.text?

/-- The report of a kind that parameters make. -/
def ofParams? (kind : ChangeKind) (params : Json) : Option Change := do
  let report ← (kind.params.decode params).toOption
  let document ← report.field? "textDocument"
  let uri ← Uri.parse? (← textField? "uri" document)
  match kind with
  | .opening => return opened uri (← textField? "text" document)
  | .editing =>
    let edits ← (report.field? "contentChanges").bind Json.items?
    return edited uri (← edits.mapM (textField? "text"))
  | .saving => return saved uri (textField? "text" report)
  | .closing => return closed uri

end Change

end SyntaxWatch
