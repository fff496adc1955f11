import SyntaxWatch.Server.Vocabulary

/-!
# What an editor tells about itself

The shape of the parameters with which an editor sets a session up: where it works, and what it is
capable of. The session asks for none of it, but refuses to be set up with parameters of another
shape.

## Main definitions

* `Shape.capabilities`: what an editor is capable of.
* `Shape.setUp`: the parameters.
-/

namespace SyntaxWatch.Shape

/-! ### Parts of capabilities -/

/-- A capability that can be turned on while a session runs. -/
def dynamic : Shape :=
  record "DynamicRegistrationClientCapabilities" [flag "dynamicRegistration"]

/-- A capability to ask again for what a server has told. -/
def refreshing (name : String) : Shape := record name [flag "refreshSupport"]

/-- The properties of a thing that may be told later. -/
def properties (name : String) : Shape := record name [("properties", list string)]

/-- The field for the tags that an editor knows. Some editors tell only whether they know any. -/
def tagSupport : String × Shape :=
  ("tagSupport", usual (optional (switched (record "TagSupport" [("valueSet", list signed)]))))

/-- The kinds of symbols that an editor knows. -/
def symbolKinds : Shape := record "SymbolKindCapability" [may "valueSet" (list signed)]

/-- Kinds of markup, the preferred one first. -/
def markupKinds : Shape := list markupKind

/-- A capability to go to a place that a server tells. -/
def goto : Shape := record "GotoCapability" [flag "dynamicRegistration", flag "linkSupport"]

/-! ### The workspace -/

/-- How an editor takes edits of the workspace. -/
def workspaceEditing : Shape := record "WorkspaceEditClientCapabilities" [
  flag "documentChanges",
  may "resourceOperations" (list (choice ["create", "rename", "delete"])),
  may "failureHandling" (choice ["abort", "transactional", "textOnlyTransactional", "undo"]),
  flag "normalizesLineEndings",
  may "changeAnnotationSupport"
    (record "ChangeAnnotationWorkspaceEditClientCapabilities" [flag "groupsOnLabel"])]

/-- What an editor is capable of in the workspace. -/
def workspaceCapabilities : Shape := record "WorkspaceClientCapabilities" [
  flag "applyEdit",
  may "workspaceEdit" workspaceEditing,
  may "didChangeConfiguration" dynamic,
  may "didChangeWatchedFiles" (record "DidChangeWatchedFilesClientCapabilities" [
    flag "dynamicRegistration", flag "relativePatternSupport"]),
  may "symbol" (record "WorkspaceSymbolClientCapabilities" [
    flag "dynamicRegistration", may "symbolKind" symbolKinds, tagSupport,
    may "resolveSupport" (properties "WorkspaceSymbolResolveSupportCapability")]),
  may "executeCommand" dynamic,
  flag "workspaceFolders",
  flag "configuration",
  may "semanticTokens" (refreshing "SemanticTokensWorkspaceClientCapabilities"),
  may "codeLens" (refreshing "CodeLensWorkspaceClientCapabilities"),
  may "fileOperations" (record "WorkspaceFileOperationsClientCapabilities" [
    flag "dynamicRegistration", flag "didCreate", flag "willCreate", flag "didRename",
    flag "willRename", flag "didDelete", flag "willDelete"]),
  may "inlineValue" (refreshing "InlineValueWorkspaceClientCapabilities"),
  may "inlayHint" (refreshing "InlayHintWorkspaceClientCapabilities"),
  may "diagnostic" (refreshing "DiagnosticWorkspaceClientCapabilities")]

/-! ### Documents -/

/-- How an editor completes words. -/
def completionCapabilities : Shape := record "CompletionClientCapabilities" [
  flag "dynamicRegistration",
  may "completionItem" (record "CompletionItemCapability" [
    flag "snippetSupport",
    flag "commitCharactersSupport",
    may "documentationFormat" markupKinds,
    flag "deprecatedSupport",
    flag "preselectSupport",
    tagSupport,
    flag "insertReplaceSupport",
    may "resolveSupport" (properties "CompletionItemCapabilityResolveSupport"),
    may "insertTextModeSupport" (record "InsertTextModeSupport" [("valueSet", list signed)]),
    flag "labelDetailsSupport"]),
  may "completionItemKind"
    (record "CompletionItemKindCapability" [may "valueSet" (list signed)]),
  flag "contextSupport",
  may "insertTextMode" signed,
  may "completionList" (record "CompletionListCapability" [may "itemDefaults" (list string)])]

/-- How an editor takes actions on code. -/
def codeActionCapabilities : Shape := record "CodeActionClientCapabilities" [
  flag "dynamicRegistration",
  may "codeActionLiteralSupport" (record "CodeActionLiteralSupport" [
    ("codeActionKind", record "CodeActionKindLiteralSupport" [("valueSet", list string)])]),
  flag "isPreferredSupport",
  flag "disabledSupport",
  flag "dataSupport",
  may "resolveSupport" (properties "CodeActionCapabilityResolveSupport"),
  flag "honorsChangeAnnotations"]

/-- How an editor colours words by their meaning. -/
def semanticTokenCapabilities : Shape := record "SemanticTokensClientCapabilities" [
  flag "dynamicRegistration",
  ("requests", record "SemanticTokensClientCapabilitiesRequests" [
    flag "range",
    may "full" (oneOf "SemanticTokensFullOptions" [bool, joined "Delta" [flag "delta"] []])]),
  ("tokenTypes", list string),
  ("tokenModifiers", list string),
  ("formats", list string),
  flag "overlappingTokenSupport",
  flag "multilineTokenSupport",
  flag "serverCancelSupport",
  flag "augmentsSyntaxTokens"]

/-- What an editor is capable of in a document. -/
def documentCapabilities : Shape := record "TextDocumentClientCapabilities" [
  may "synchronization" (record "TextDocumentSyncClientCapabilities" [
    flag "dynamicRegistration", flag "willSave", flag "willSaveWaitUntil", flag "didSave"]),
  may "completion" completionCapabilities,
  may "hover" (record "HoverClientCapabilities" [
    flag "dynamicRegistration", may "contentFormat" markupKinds]),
  may "signatureHelp" (record "SignatureHelpClientCapabilities" [
    flag "dynamicRegistration",
    may "signatureInformation" (record "SignatureInformationSettings" [
      may "documentationFormat" markupKinds,
      may "parameterInformation"
        (record "ParameterInformationSettings" [flag "labelOffsetSupport"]),
      flag "activeParameterSupport"]),
    flag "contextSupport"]),
  may "references" dynamic,
  may "documentHighlight" dynamic,
  may "documentSymbol" (record "DocumentSymbolClientCapabilities" [
    flag "dynamicRegistration", may "symbolKind" symbolKinds,
    flag "hierarchicalDocumentSymbolSupport", tagSupport]),
  may "formatting" dynamic,
  may "rangeFormatting" dynamic,
  may "onTypeFormatting" dynamic,
  may "declaration" goto,
  may "definition" goto,
  may "typeDefinition" goto,
  may "implementation" goto,
  may "codeAction" codeActionCapabilities,
  may "codeLens" dynamic,
  may "documentLink" (record "DocumentLinkClientCapabilities" [
    flag "dynamicRegistration", flag "tooltipSupport"]),
  may "colorProvider" dynamic,
  may "rename" (record "RenameClientCapabilities" [
    flag "dynamicRegistration", flag "prepareSupport",
    may "prepareSupportDefaultBehavior" signed, flag "honorsChangeAnnotations"]),
  may "publishDiagnostics" (record "PublishDiagnosticsClientCapabilities" [
    flag "relatedInformation", tagSupport, flag "versionSupport",
    flag "codeDescriptionSupport", flag "dataSupport"]),
  may "foldingRange" (record "FoldingRangeClientCapabilities" [
    flag "dynamicRegistration",
    may "rangeLimit" count,
    flag "lineFoldingOnly",
    may "foldingRangeKind" (record "FoldingRangeKindCapability" [
      may "valueSet" (list (choice ["comment", "imports", "region"]))]),
    may "foldingRange" (record "FoldingRangeCapability" [flag "collapsedText"])]),
  may "selectionRange" (record "SelectionRangeClientCapabilities" [flag "dynamicRegistration"]),
  may "linkedEditingRange" dynamic,
  may "callHierarchy" dynamic,
  may "semanticTokens" semanticTokenCapabilities,
  may "moniker" dynamic,
  may "typeHierarchy" dynamic,
  may "inlineValue" dynamic,
  may "inlayHint" (record "InlayHintClientCapabilities" [
    flag "dynamicRegistration",
    may "resolveSupport" (properties "InlayHintResolveClientCapabilities")]),
  may "diagnostic" (record "DiagnosticClientCapabilities" [
    flag "dynamicRegistration", flag "relatedDocumentSupport"])]

/-! ### The window and the rest -/

/-- What an editor shows in its window. -/
def windowCapabilities : Shape := record "WindowClientCapabilities" [
  flag "workDoneProgress",
  may "showMessage" (record "ShowMessageRequestClientCapabilities" [
    may "messageActionItem"
      (record "MessageActionItemCapabilities" [flag "additionalPropertiesSupport"])]),
  may "showDocument" (record "ShowDocumentClientCapabilities" [("support", bool)])]

/-- What an editor is capable of otherwise. -/
def generalCapabilities : Shape := record "GeneralClientCapabilities" [
  may "regularExpressions" (record "RegularExpressionsClientCapabilities" [
    ("engine", string), may "version" string]),
  may "markdown" (record "MarkdownClientCapabilities" [
    ("parser", string), may "version" string, may "allowedTags" (list string)]),
  may "staleRequestSupport" (record "StaleRequestSupportClientCapabilities" [
    ("cancel", bool), ("retryOnContentModified", list string)]),
  may "positionEncodings" (list string)]

/-- What an editor is capable of. -/
def capabilities : Shape := record "ClientCapabilities" [
  may "workspace" workspaceCapabilities,
  may "textDocument" documentCapabilities,
  may "window" windowCapabilities,
  may "general" generalCapabilities,
  may "experimental" any]

/-! ### Setting up -/

/-- The parameters with which an editor sets a session up. -/
def setUp : Shape := record "InitializeParams" [
  may "processId" count,
  may "rootPath" string,
  ("rootUri", usual (optional uri)),
  may "initializationOptions" any,
  ("capabilities", capabilities),
  ("trace", usual (optional (choice ["off", "messages", "verbose"]))),
  may "workspaceFolders"
    (list (record "WorkspaceFolder" [("uri", uri), ("name", string)])),
  may "clientInfo" (record "ClientInfo" [("name", string), may "version" string]),
  may "locale" string]

end SyntaxWatch.Shape
