import CallHierarchy.Json.Form

/-! The forms of the capabilities that a server may state. -/

namespace CallHierarchy.Capabilities

open Json Json.Form Json.Field

/-- Whether work on a request may be reported. -/
def progress : Field := optional "workDoneProgress" flag

/-- A capability stated by a plain yes or no, or by options. -/
def switch (fields : List Field) : Form := either [flag, group (progress :: fields)]

/-- Which documents a filter means. -/
def documentFilter : Form :=
  record [optional "language" text, optional "scheme" text, optional "pattern" text]

/-- The documents that a capability is for, and the name of its registration. -/
def registration : Form :=
  record [optional "documentSelector" (listOf documentFilter), optional "id" text]

/-- How documents are kept in step with the server: by a number, or by options. -/
def documentSync : Form :=
  let saving := either [flag, record [optional "includeText" flag]]
  either [code, record [optional "openClose" flag, optional "change" code,
    optional "willSave" flag, optional "willSaveWaitUntil" flag, optional "save" saving]]

/-- Which notebooks a filter means; it states at least one of its three fields. -/
def notebookFilter : Form :=
  let fields := ["notebook_type", "scheme", "pattern"]
  either (fields.map fun needed =>
    group (fields.map fun name => if name = needed then required name text else optional name text))

/-- Which notebooks and cells are kept in step; it states at least one of its two fields. -/
def notebookSelector : Form :=
  let notebook := either [text, notebookFilter]
  let cells := listOf (record [required "language" text])
  either [group [required "notebook" notebook, optional "cells" cells],
    group [optional "notebook" notebook, required "cells" cells]]

def notebookSync : Form :=
  let fields := [required "notebookSelector" (listOf notebookSelector), optional "save" flag]
  either [record fields, record (fields ++ [optional "id" text])]

def completion : Form :=
  group [optional "resolveProvider" flag, optional "triggerCharacters" (listOf text),
    optional "allCommitCharacters" (listOf text), progress,
    optional "completionItem" (record [optional "labelDetailsSupport" flag])]

def signatureHelp : Form :=
  group [optional "triggerCharacters" (listOf text), optional "retriggerCharacters" (listOf text),
    progress]

/-- Capabilities that concern colors or folds: a yes or no, options, or a registration. -/
def decoration : Form := either [flag, record [], registration]

/-- The files that an operation concerns. -/
def fileOperation : Form :=
  let pattern := record [required "glob" text, optional "matches" (wordOf ["file", "folder"]),
    optional "options" (record [optional "ignoreCase" flag])]
  record [required "filters" (listOf (record [optional "scheme" text, required "pattern" pattern]))]

def workspace : Form :=
  let folders := record [optional "supported" flag,
    optional "changeNotifications" (either [flag, text])]
  let operations := record (["didCreate", "willCreate", "didRename", "willRename", "didDelete",
    "willDelete"].map (optional · fileOperation))
  record [optional "workspaceFolders" folders, optional "fileOperations" operations]

def semanticTokens : Form :=
  let legend :=
    record [required "tokenTypes" (listOf text), required "tokenModifiers" (listOf text)]
  group [progress, required "legend" legend, optional "range" flag,
    optional "full" (either [flag, group [optional "delta" flag]])]

def diagnostics : Form :=
  group [optional "identifier" text, required "interFileDependencies" flag,
    required "workspaceDiagnostics" flag, progress]

/-- All capabilities, in the order in which an array states them. -/
def fields : List Field := [
  optional "positionEncoding" text,
  optional "textDocumentSync" documentSync,
  optional "notebookDocumentSync" notebookSync,
  optional "selectionRangeProvider" (switch []),
  optional "hoverProvider" (switch []),
  optional "completionProvider" completion,
  optional "signatureHelpProvider" signatureHelp,
  optional "definitionProvider" (switch []),
  optional "typeDefinitionProvider" (either [flag, registration]),
  optional "implementationProvider" (either [flag, registration]),
  optional "referencesProvider" (switch []),
  optional "documentHighlightProvider" (switch []),
  optional "documentSymbolProvider" (switch [optional "label" text]),
  optional "workspaceSymbolProvider" (switch [optional "resolveProvider" flag]),
  optional "codeActionProvider"
    (switch [optional "codeActionKinds" (listOf text), optional "resolveProvider" flag]),
  optional "codeLensProvider" (record [optional "resolveProvider" flag]),
  optional "documentFormattingProvider" (switch []),
  optional "documentRangeFormattingProvider" (switch []),
  optional "documentOnTypeFormattingProvider"
    (record [required "firstTriggerCharacter" text, optional "moreTriggerCharacter" (listOf text)]),
  optional "renameProvider" (switch [optional "prepareProvider" flag]),
  optional "documentLinkProvider" (group [optional "resolveProvider" flag, progress]),
  optional "colorProvider" decoration,
  optional "foldingRangeProvider" decoration,
  optional "declarationProvider" (switch []),
  optional "executeCommandProvider" (group [required "commands" (listOf text), progress]),
  optional "workspace" workspace,
  optional "callHierarchyProvider" (switch []),
  optional "semanticTokensProvider" semanticTokens,
  optional "monikerProvider" (switch []),
  optional "linkedEditingRangeProvider" (switch []),
  optional "inlineValueProvider" (switch []),
  optional "inlayHintProvider" (switch [optional "resolveProvider" flag]),
  optional "diagnosticProvider" diagnostics,
  optional "experimental" anything]

end CallHierarchy.Capabilities
