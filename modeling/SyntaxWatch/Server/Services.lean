import SyntaxWatch.Server.Vocabulary

/-!
# Services

The services that an editor may ask of a language server, with the shapes of their parameters. This
server offers none of them, but a request with parameters of another shape is told so first.

## Main definitions

* `Service`: a service.
* `Service.all`: the services.
-/

namespace SyntaxWatch

/-- A service that an editor may ask for: the method, and the shape of its parameters. -/
structure Service where
  method : String
  params : Shape

namespace Service

open Shape

/-! ### Parameters -/

/-- Parameters that ask about a document. -/
def about (name : String) (fields : List (String × Shape)) : Shape :=
  joined name (("textDocument", document) :: fields) progress

/-- Parameters that ask about a place in a document. -/
def atPlace (name : String) : Shape :=
  joined name [] (documentPosition :: progress)

/-- Parameters that ask about a place in a document, with an answer that comes at once. -/
def atOnce (name : String) (fields : List (String × Shape)) : Shape :=
  joined name fields [documentPosition, workProgress]

/-- Parameters that ask about an item of a tree. -/
def ofItem (name : String) (item : Shape) : Shape :=
  joined name [("item", item)] progress

/-- A symbol in a tree of callers. -/
def callItem : Shape := hierarchyItem "CallHierarchyItem" (list signed)

/-- A symbol in a tree of types. -/
def typeItem : Shape := hierarchyItem "TypeHierarchyItem" signed

/-- How a text is to be formatted. An editor may add options of its own. -/
def formatting : Shape := joined "FormattingOptions" [
    ("tabSize", count),
    ("insertSpaces", bool),
    flag "trimTrailingWhitespace",
    flag "insertFinalNewline",
    flag "trimFinalNewlines"]
  [map "a map" string (oneOf "FormattingProperty" [bool, signed, string])]

/-- What an editor shows of the signature of a function. -/
def signatureHelp : Shape := record "SignatureHelp" [
  ("signatures", list (record "SignatureInformation" [
    ("label", string),
    may "documentation" (explanation "Documentation"),
    may "parameters" (list (record "ParameterInformation" [
      ("label", oneOf "ParameterLabel" [string, row 2 count]),
      may "documentation" (explanation "Documentation")])),
    may "activeParameter" count])),
  may "activeSignature" count,
  may "activeParameter" count]

/-- A word that completes a text. -/
def completionItem : Shape := record "CompletionItem" [
  ("label", string),
  may "labelDetails" (record "CompletionItemLabelDetails" [
    may "detail" string, may "description" string]),
  may "kind" signed,
  may "detail" string,
  may "documentation" (explanation "Documentation"),
  flag "deprecated",
  flag "preselect",
  may "sortText" string,
  may "filterText" string,
  may "insertText" string,
  may "insertTextFormat" signed,
  may "insertTextMode" signed,
  may "textEdit" (oneOf "CompletionTextEdit" [textEdit, insertReplaceEdit]),
  may "additionalTextEdits" (list textEdit),
  may "command" command,
  may "commitCharacters" (list string),
  may "data" any,
  may "tags" (list signed)]

/-- An action on code. -/
def codeAction : Shape := record "CodeAction" [
  ("title", string),
  may "kind" string,
  may "diagnostics" (list diagnostic),
  may "edit" workspaceEdit,
  may "command" command,
  flag "isPreferred",
  may "disabled" (record "CodeActionDisabled" [("reason", string)]),
  may "data" any]

/-- A hint that an editor shows within a text. -/
def inlayHint : Shape := record "InlayHint" [
  ("position", position),
  ("label", oneOf "InlayHintLabel" [
    string,
    list (record "InlayHintLabelPart" [
      ("value", string),
      may "tooltip" (explanation "InlayHintLabelPartTooltip"),
      may "location" location,
      may "command" command])]),
  may "kind" signed,
  may "textEdits" (list textEdit),
  may "tooltip" (explanation "InlayHintTooltip"),
  flag "paddingLeft",
  flag "paddingRight",
  may "data" any]

/-- Files that are to be created or deleted. -/
def files (name item : String) : Shape :=
  record name [("files", list (record item [("uri", string)]))]

/-! ### The services -/

/-- The services that lead from a place to others. -/
def navigation : List Service := [
  ⟨"textDocument/declaration", atPlace "GotoDefinitionParams"⟩,
  ⟨"textDocument/definition", atPlace "GotoDefinitionParams"⟩,
  ⟨"textDocument/typeDefinition", atPlace "GotoDefinitionParams"⟩,
  ⟨"textDocument/implementation", atPlace "GotoDefinitionParams"⟩,
  ⟨"textDocument/references", joined "ReferenceParams"
    [("context", record "ReferenceContext" [("includeDeclaration", bool)])]
    (documentPosition :: progress)⟩,
  ⟨"textDocument/prepareCallHierarchy", atOnce "CallHierarchyPrepareParams" []⟩,
  ⟨"callHierarchy/incomingCalls", ofItem "CallHierarchyIncomingCallsParams" callItem⟩,
  ⟨"callHierarchy/outgoingCalls", ofItem "CallHierarchyOutgoingCallsParams" callItem⟩,
  ⟨"textDocument/prepareTypeHierarchy", atOnce "TypeHierarchyPrepareParams" []⟩,
  ⟨"typeHierarchy/supertypes", ofItem "TypeHierarchySupertypesParams" typeItem⟩,
  ⟨"typeHierarchy/subtypes", ofItem "TypeHierarchySubtypesParams" typeItem⟩,
  ⟨"textDocument/documentHighlight", atPlace "DocumentHighlightParams"⟩,
  ⟨"textDocument/documentLink", about "DocumentLinkParams" []⟩,
  ⟨"documentLink/resolve", record "DocumentLink" [
    ("range", range), may "target" uri, may "tooltip" string, may "data" any]⟩,
  ⟨"textDocument/moniker", atPlace "MonikerParams"⟩]

/-- The services that tell about a document. -/
def description : List Service := [
  ⟨"textDocument/hover", atOnce "HoverParams" []⟩,
  ⟨"textDocument/codeLens", about "CodeLensParams" []⟩,
  ⟨"codeLens/resolve", record "CodeLens" [
    ("range", range), may "command" command, may "data" any]⟩,
  ⟨"textDocument/foldingRange", about "FoldingRangeParams" []⟩,
  ⟨"textDocument/selectionRange", about "SelectionRangeParams" [("positions", list position)]⟩,
  ⟨"textDocument/documentSymbol", about "DocumentSymbolParams" []⟩,
  ⟨"textDocument/semanticTokens/full", about "SemanticTokensParams" []⟩,
  ⟨"textDocument/semanticTokens/full/delta", about "SemanticTokensDeltaParams"
    [("previousResultId", string)]⟩,
  ⟨"textDocument/semanticTokens/range", about "SemanticTokensRangeParams" [("range", range)]⟩,
  ⟨"textDocument/inlineValue", joined "InlineValueParams"
    [("textDocument", document), ("range", range),
      ("context", record "InlineValueContext" [("frameId", signed), ("stoppedLocation", range)])]
    [workProgress]⟩,
  ⟨"textDocument/inlayHint", joined "InlayHintParams"
    [("textDocument", document), ("range", range)] [workProgress]⟩,
  ⟨"inlayHint/resolve", inlayHint⟩,
  ⟨"textDocument/completion", joined "CompletionParams"
    [may "context" (record "CompletionContext" [
      ("triggerKind", signed), may "triggerCharacter" string])]
    (documentPosition :: progress)⟩,
  ⟨"completionItem/resolve", completionItem⟩,
  ⟨"textDocument/diagnostic", about "DocumentDiagnosticParams"
    [may "identifier" string, may "previousResultId" string]⟩,
  ⟨"textDocument/signatureHelp", atOnce "SignatureHelpParams"
    [may "context" (record "SignatureHelpContext" [
      ("triggerKind", signed), may "triggerCharacter" string, ("isRetrigger", bool),
      may "activeSignatureHelp" signatureHelp])]⟩,
  ⟨"textDocument/documentColor", about "DocumentColorParams" []⟩,
  ⟨"textDocument/colorPresentation", about "ColorPresentationParams"
    [("color", record "Color" [
      ("red", number "f32"), ("green", number "f32"), ("blue", number "f32"),
      ("alpha", number "f32")]),
    ("range", range)]⟩]

/-- The services that change a document. -/
def editing : List Service := [
  ⟨"textDocument/willSaveWaitUntil", record "WillSaveTextDocumentParams"
    [("textDocument", document), ("reason", signed)]⟩,
  ⟨"textDocument/codeAction", about "CodeActionParams"
    [("range", range),
      ("context", record "CodeActionContext" [
        ("diagnostics", list diagnostic), may "only" (list string),
        may "triggerKind" signed])]⟩,
  ⟨"codeAction/resolve", codeAction⟩,
  ⟨"textDocument/formatting", joined "DocumentFormattingParams"
    [("textDocument", document), ("options", formatting)] [workProgress]⟩,
  ⟨"textDocument/rangeFormatting", joined "DocumentRangeFormattingParams"
    [("textDocument", document), ("range", range), ("options", formatting)] [workProgress]⟩,
  ⟨"textDocument/onTypeFormatting", joined "DocumentOnTypeFormattingParams"
    [("ch", string), ("options", formatting)] [documentPosition]⟩,
  ⟨"textDocument/rename", atOnce "RenameParams" [("newName", string)]⟩,
  ⟨"textDocument/prepareRename", documentPosition⟩,
  ⟨"textDocument/linkedEditingRange", atOnce "LinkedEditingRangeParams" []⟩]

/-- The services that concern the workspace. -/
def workspace : List Service := [
  ⟨"workspace/diagnostic", joined "WorkspaceDiagnosticParams"
    [may "identifier" string,
      ("previousResultIds",
        list (record "PreviousResultId" [("uri", uri), ("value", string)]))]
    progress⟩,
  ⟨"workspace/symbol", joined "WorkspaceSymbolParams" [("query", string)] progress⟩,
  ⟨"workspaceSymbol/resolve", record "WorkspaceSymbol" [
    ("name", string), ("kind", signed), may "tags" (list signed), may "containerName" string,
    ("location", oneOf "OneOf" [location, record "WorkspaceLocation" [("uri", uri)]]),
    may "data" any]⟩,
  ⟨"workspace/willCreateFiles", files "CreateFilesParams" "FileCreate"⟩,
  ⟨"workspace/willRenameFiles", record "RenameFilesParams"
    [("files", list (record "FileRename" [("oldUri", string), ("newUri", string)]))]⟩,
  ⟨"workspace/willDeleteFiles", files "DeleteFilesParams" "FileDelete"⟩,
  ⟨"workspace/executeCommand", joined "ExecuteCommandParams"
    [("command", string), ("arguments", usual (list any))] [workProgress]⟩]

/-- The services. -/
def all : List Service := navigation ++ description ++ editing ++ workspace

end Service

end SyntaxWatch
