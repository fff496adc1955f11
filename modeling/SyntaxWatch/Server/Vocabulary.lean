import SyntaxWatch.Server.Shape

/-!
# Values that many methods use

The shapes of places, documents, edits and reports, which the parameters of many methods hold.
-/

namespace SyntaxWatch.Shape

/-! ### Fields -/

/-- A field that may be missing. -/
def may (name : String) (shape : Shape) : String × Shape :=
  (name, optional shape)

/-- A Boolean field that may be missing. -/
def flag (name : String) : String × Shape :=
  may name bool

/-! ### Numbers -/

/-- A whole number of 32 bits without a sign. -/
def count : Shape := whole "u32" 0 4294967295

/-- A whole number of 32 bits with a sign. Kinds of things that are told by a number come so. -/
def signed : Shape := whole "i32" (-2147483648) 2147483647

/-! ### Places -/

/-- A position: a line and a place in it. -/
def position : Shape := record "Position" [("line", count), ("character", count)]

/-- What lies between two positions. -/
def range : Shape := record "Range" [("start", position), ("end", position)]

/-- A range of a document. -/
def location : Shape := record "Location" [("uri", uri), ("range", range)]

/-! ### Documents -/

/-- The name of a document. -/
def document : Shape := record "TextDocumentIdentifier" [("uri", uri)]

/-- A place in a document. -/
def documentPosition : Shape :=
  record "TextDocumentPositionParams" [("textDocument", document), ("position", position)]

/-- A document with its version. -/
def versioned : Shape :=
  record "VersionedTextDocumentIdentifier" [("uri", uri), ("version", signed)]

/-! ### Progress -/

/-- The token under which an editor wants to hear of progress. -/
def token : Shape := oneOf "NumberOrString" [signed, string]

/-- Where an editor wants to hear how far a service is. -/
def workProgress : Shape := record "WorkDoneProgressParams" [may "workDoneToken" token]

/-- Where an editor wants to hear of results as they are found. -/
def partialResults : Shape := record "PartialResultParams" [may "partialResultToken" token]

/-- What the parameters of most services take in. -/
def progress : List Shape := [workProgress, partialResults]

/-! ### Texts with markup -/

/-- A kind of markup. -/
def markupKind : Shape := choice ["plaintext", "markdown"]

/-- A text with its kind of markup. -/
def markup : Shape := record "MarkupContent" [("kind", markupKind), ("value", string)]

/-- A text, with or without markup. -/
def explanation (name : String) : Shape := oneOf name [string, markup]

/-! ### Commands and edits -/

/-- A command with its arguments. -/
def command : Shape :=
  record "Command" [("title", string), ("command", string), may "arguments" (list any)]

/-- A text that replaces a range. -/
def textEdit : Shape := record "TextEdit" [("range", range), ("newText", string)]

/-- A text that is put in before a place, or in place of what is around it. -/
def insertReplaceEdit : Shape :=
  record "InsertReplaceEdit" [("newText", string), ("insert", range), ("replace", range)]

/-- An edit with the reason for it. -/
def annotatedEdit : Shape := joined "AnnotatedTextEdit" [("annotationId", string)] [textEdit]

/-- The edits of one document. -/
def documentEdit : Shape := record "TextDocumentEdit" [
  ("textDocument",
    record "OptionalVersionedTextDocumentIdentifier" [("uri", uri), may "version" signed]),
  ("edits", list (oneOf "OneOf" [textEdit, annotatedEdit]))]

/-- The field that tells what is done with a file. -/
def fileAction (name : String) : String × Shape :=
  ("kind", mark ["create", "rename", "delete"] name)

/-- The creation, renaming or deletion of a file. -/
def fileOperation : Shape := oneOf "ResourceOp" [
  record "CreateFile" [fileAction "create", ("uri", uri),
    may "options" (record "CreateFileOptions" [flag "overwrite", flag "ignoreIfExists"]),
    may "annotationId" string],
  record "RenameFile" [fileAction "rename", ("oldUri", uri), ("newUri", uri),
    may "options" (record "RenameFileOptions" [flag "overwrite", flag "ignoreIfExists"]),
    may "annotationId" string],
  record "DeleteFile" [fileAction "delete", ("uri", uri),
    may "options" (record "DeleteFileOptions" [flag "recursive", flag "ignoreIfNotExists",
      may "annotationId" string])]]

/-- Edits of documents and files. -/
def workspaceEdit : Shape := record "WorkspaceEdit" [
  ("changes", usual (optional (map "map" uri (list textEdit)))),
  may "documentChanges" (oneOf "DocumentChanges" [
    list documentEdit,
    list (oneOf "DocumentChangeOperation" [fileOperation, documentEdit])]),
  may "changeAnnotations" (map "a map" string (record "ChangeAnnotation" [
    ("label", string), flag "needsConfirmation", may "description" string]))]

/-! ### Reports -/

/-- A diagnostic as an editor tells it. -/
def diagnostic : Shape := record "Diagnostic" [
  ("range", range),
  may "severity" signed,
  may "code" token,
  may "codeDescription" (record "CodeDescription" [("href", uri)]),
  may "source" string,
  ("message", string),
  may "relatedInformation" (list (record "DiagnosticRelatedInformation" [
    ("location", location), ("message", string)])),
  may "tags" (list signed),
  may "data" any]

/-- A symbol in a tree of callers or of types. -/
def hierarchyItem (name : String) (tags : Shape) : Shape := record name [
  ("name", string),
  ("kind", signed),
  may "tags" tags,
  may "detail" string,
  ("uri", uri),
  ("range", range),
  ("selectionRange", range),
  may "data" any]

end SyntaxWatch.Shape
