import CodexRouter.Cli.Governance
import CodexRouter.Js.Json
import CodexRouter.Js.Lines

/-!
# Inspection of what the CLI has printed

The CLI prints one JSON event a line. An inspection looks at one type, one command text and some of
the paths of each event. The matchers it asks are parameters.
-/

open Js

namespace CodexRouter.Cli

abbrev Payload := List (Str × Json)

/-- The predicates and texts that the inspection takes from elsewhere. -/
structure Matchers where
  /-- `JSON.parse`, with the message of its error. -/
  parseJson : Str → Except Str Json
  isFailedTurn : Str → Bool
  isFileChangeLike : Str → Bool
  isCommandExecutionLike : Str → Bool
  isProbeToolLike : Str → Bool
  isWriteToolLike : Str → Bool
  isWriteCommand : Str → Bool
  isRemoteWriteCommand : Str → Bool
  /-- Of a field key that is no safe token metric. -/
  isSecretLikeFieldKey : Str → Bool
  redactText : Str → Str
  redactValue : Json → Json
  extractWarnings : Str → List Str

/-! ## Matchers of event types -/

section
variable [Runtime]

/-- `type.toLowerCase().replace(/[-.]/g, "_")`. -/
def normalizeEventType (type : Str) : Str :=
  (Runtime.toLowerCase type).map fun c => if c = cu '-' ∨ c = cu '.' then cu '_' else c

def isCodexCliFileChangeLikeEventType (type : Str) : Bool :=
  let normalized := normalizeEventType type
  [js "file_change", js "file_changed", js "file_update", js "file_write", js "patch",
      js "apply_patch", js "diff"].contains normalized
    || includes normalized "file_change"
    || includes normalized "file_write"
    || includes normalized "apply_patch"

def isCodexCliCommandExecutionLikeEventType (type : Str) : Bool :=
  let normalized := normalizeEventType type
  [js "command_execution", js "shell_command", js "exec_command"].contains normalized
    || includes normalized "command_execution"
    || includes normalized "shell_command"

def isCodexCliProbeToolLikeEventType (type : Str) : Bool :=
  let normalized := normalizeEventType type
  [js "command_execution", js "tool_call", js "mcp_tool_call", js "function_call",
      js "web_search", js "web_search_call"].contains normalized
    || endsWith normalized "_tool_call"
    || includes normalized "command_execution"

def isCodexCliFailedTurnEventType (type : Str) : Bool :=
  Runtime.toLowerCase type = js "turn.failed"

def isCodexCliWriteToolLikeEventType (type : Str) : Bool :=
  let normalized := normalizeEventType type
  [js "mcp_tool_call", js "tool_call", js "function_call"].contains normalized
    || includes normalized "apply_patch"
    || includes normalized "write"
    || includes normalized "edit"
    || includes normalized "delete"
    || includes normalized "remove"

end

/-! ## Events -/

structure CodexCliJsonlEvent where
  line : ℕ
  raw : Str
  event : Payload
  deriving DecidableEq

structure CodexCliJsonlParseError where
  line : ℕ
  raw : Str
  error : Str
  deriving DecidableEq

structure CodexCliCommandOutput where
  exitCode : ℤ
  stdout : Str
  stderr : Option Str
  deriving DecidableEq

structure CodexCliSemanticInspectionOptions where
  sandbox : Option CodexCliSandboxMode
  targetFiles : Option (List Str)
  strictUnknownEvents : Option Bool
  deriving DecidableEq

inductive CodexCliExecutionStatus where
  | completed | failed
  deriving DecidableEq

structure CodexCliCommandInspection where
  status : CodexCliExecutionStatus
  events : List CodexCliJsonlEvent
  parseErrors : List CodexCliJsonlParseError
  warnings : List Str
  blockingReasons : List Str

/-- `output.split(/\r?\n/)`. -/
def outputLines (output : Str) : List Str := chompInit (split newLine output)

def stringField (payload : Payload) (key : Str) : Option Str :=
  match Json.get? payload key with
  | some (.str text) => some text
  | _ => none

/-- `isRecord(payload.item) ? payload.item : undefined`. -/
def itemOf (payload : Payload) : Option Payload :=
  match Json.get? payload "item" with
  | some (.obj item) => some item
  | _ => none

def itemType (payload : Payload) : Option Str := (itemOf payload).bind fun item =>
  stringField item "type"

def getCodexCliJsonlSemanticEventType (payload : Payload) : Option Str :=
  (itemType payload).or (stringField payload "type")

/-! ## Commands -/

/-- The items of an array of strings only. -/
def stringItems : List Json → Option (List Str)
  | [] => some []
  | .str text :: items => (stringItems items).map (text :: ·)
  | _ :: _ => none

/-- `joinStringArray(payload[key])`. -/
def joinStringArray (payload : Payload) (key : Str) : Option Str :=
  match Json.get? payload key with
  | some (.arr items) => (stringItems items).map (join (cu ' '))
  | _ => none

def firstString (values : List (Option Str)) : Option Str :=
  (values.reduceOption).find? fun value => trim value ≠ []

def extractCodexCliJsonlCommandText (payload : Payload) : Option Str :=
  let item := (itemOf payload).getD []
  (firstString [
    stringField payload "command",
    stringField payload "cmd",
    stringField item "command",
    stringField item "cmd",
    joinStringArray payload "argv",
    joinStringArray payload "args",
    joinStringArray item "argv",
    joinStringArray item "args"]).map trim

/-! ## Paths -/

section
variable [Runtime]

def isPathKey (normalizedKey : Str) : Bool :=
  [js "path", js "file", js "file_path", js "filepath", js "target_file"].contains normalizedKey

def isPathListKey (normalizedKey : Str) : Bool :=
  [js "paths", js "files", js "file_paths", js "changed_files"].contains normalizedKey

mutual

def collectCodexCliJsonlEventFilePaths : Json → List Str
  | .arr items => collectItemPaths items
  | .obj members => collectMemberPaths members
  | .null | .bool _ | .num _ | .str _ => []

def collectItemPaths : List Json → List Str
  | [] => []
  | item :: items => collectCodexCliJsonlEventFilePaths item ++ collectItemPaths items

def collectMemberPaths : Payload → List Str
  | [] => []
  | (key, .str text) :: members =>
    (if isPathKey (Runtime.toLowerCase key) then [text] else []) ++ collectMemberPaths members
  | (key, .arr items) :: members =>
    (match stringItems items with
      | some texts =>
        if isPathListKey (Runtime.toLowerCase key) then texts else collectItemPaths items
      | none => collectItemPaths items) ++ collectMemberPaths members
  | (_, value) :: members => collectCodexCliJsonlEventFilePaths value ++ collectMemberPaths members

end

/-- `path.replace(/\\/g, "/").replace(/^\.\//, "")`. -/
def normalizeCodexCliInspectionPath (path : Str) : Str :=
  let slashed := toSlashes path
  if startsWith slashed "./" then slashed.drop 2 else slashed

def normalizeCodexCliOptionalText (value : Str) : Option Str :=
  if trim value = [] then none else some (trim value)

def inspectionPath (path : Str) : Option Str :=
  normalizeCodexCliOptionalText (normalizeCodexCliInspectionPath path)

def extractCodexCliJsonlEventFilePaths (payload : Payload) : List Str :=
  distinct ((collectMemberPaths payload).filterMap inspectionPath)

def normalizeCodexCliExplicitTargetAllowlist (values : Option (List Str)) : List Str :=
  distinct ((values.getD []).filterMap normalizeCodexCliOptionalText)

/-- The target files as the inspection compares them. -/
def CodexCliSemanticInspectionOptions.targets (options : CodexCliSemanticInspectionOptions) :
    List Str :=
  (normalizeCodexCliExplicitTargetAllowlist options.targetFiles).map
    normalizeCodexCliInspectionPath

end

/-! ## Inspection -/

section
variable [Runtime] (matchers : Matchers)

mutual

def codexCliJsonlValueHasSecretLikeContent : Json → Bool
  | .str text => matchers.redactText text ≠ text
  | .arr items => itemsHaveSecretLikeContent items
  | .obj members => membersHaveSecretLikeContent members
  | .null | .bool _ | .num _ => false

def itemsHaveSecretLikeContent : List Json → Bool
  | [] => false
  | item :: items => codexCliJsonlValueHasSecretLikeContent item || itemsHaveSecretLikeContent items

def membersHaveSecretLikeContent : Payload → Bool
  | [] => false
  | (key, value) :: members =>
    matchers.isSecretLikeFieldKey key || codexCliJsonlValueHasSecretLikeContent value
      || membersHaveSecretLikeContent members

end

def isKnownCodexCliJsonlEvent (payload : Payload) (semanticType : Str) : Bool :=
  let topLevelType := (stringField payload "type").map Runtime.toLowerCase
  let normalizedSemanticType := Runtime.toLowerCase semanticType
  let topLevelEventKnown := topLevelType.any [js "agent_message", js "session.started",
    js "session.updated", js "session.completed", js "thread.started", js "thread.updated",
    js "thread.completed", js "turn.started", js "turn.completed", js "turn.failed",
    js "task.started", js "task.completed", js "item.started", js "item.completed",
    js "item.updated", js "plan_update", js "token_count", js "warning", js "error"].contains
  let semanticEventKnown :=
    [js "agent_message", js "reasoning", js "message", js "plan_update", js "web_search",
        js "web_search_call", js "token_count"].contains normalizedSemanticType
      || matchers.isCommandExecutionLike semanticType
      || matchers.isProbeToolLike semanticType
      || matchers.isFileChangeLike semanticType
  if (itemType payload).isSome && topLevelType.any (startsWith · "item.") then semanticEventKnown
  else topLevelEventKnown || semanticEventKnown

/-- `JSON.parse` of every line that is not blank. -/
def parseLine (line : Str) (index : ℕ) : List (CodexCliJsonlParseError ⊕ CodexCliJsonlEvent) :=
  let trimmed := trim line
  if trimmed = [] then []
  else
    match matchers.parseJson trimmed with
    | .ok (.obj event) => [.inr ⟨index + 1, line, event⟩]
    | .ok _ => [.inl ⟨index + 1, line, "codex_cli_jsonl_event_not_object"⟩]
    | .error message => [.inl ⟨index + 1, line, message⟩]

structure CodexCliJsonlParseResult where
  events : List CodexCliJsonlEvent
  parseErrors : List CodexCliJsonlParseError

def parseCodexCliJsonl (output : Str) : CodexCliJsonlParseResult :=
  let parsed := (outputLines output).zipIdx.flatMap fun (line, index) =>
    parseLine matchers line index
  { events := parsed.filterMap Sum.getRight?
    parseErrors := parsed.filterMap Sum.getLeft? }

variable (options : CodexCliSemanticInspectionOptions)

def fileChangeReasons (semanticType : Str) (payload : Payload) : List Str :=
  match options.sandbox with
  | some .readOnly => [js "codex_cli_readonly_jsonl_file_change_not_allowed:" ++ semanticType]
  | some .workspaceWrite =>
    let changedFiles := extractCodexCliJsonlEventFilePaths payload
    (if changedFiles = [] then
        [js "codex_cli_workspace_write_jsonl_file_change_without_path:" ++ semanticType]
      else [])
      ++ (changedFiles.filter fun file => !options.targets.contains file).map fun file =>
        js "codex_cli_workspace_write_jsonl_file_change_not_permitted:" ++ matchers.redactText file
  | none => []

def writeToolReasons (semanticType : Str) : List Str :=
  if options.sandbox = some .readOnly ∧ matchers.isWriteToolLike semanticType = true then
    [js "codex_cli_readonly_jsonl_write_tool_not_allowed:" ++ semanticType]
  else []

def commandReasons (commandText : Str) : List Str :=
  (if matchers.isRemoteWriteCommand commandText then
      [js "codex_cli_jsonl_remote_write_command_not_allowed"] else [])
    ++ if options.sandbox = some .readOnly ∧ matchers.isWriteCommand commandText = true then
        [js "codex_cli_readonly_jsonl_write_command_not_allowed"]
      else []

/-- The body of the loop over the events. -/
def eventReasons (payload : Payload) : List Str :=
  match getCodexCliJsonlSemanticEventType payload with
  | none =>
    if options.strictUnknownEvents = some true then [js "codex_cli_jsonl_event_type_missing"]
    else []
  | some semanticType =>
    if options.strictUnknownEvents = some true
        ∧ isKnownCodexCliJsonlEvent matchers payload semanticType = false then
      [js "codex_cli_jsonl_unknown_event_type:" ++ matchers.redactText semanticType]
    else
      (if membersHaveSecretLikeContent matchers payload then
          [js "codex_cli_jsonl_secret_like_content"] else [])
        ++ (if matchers.isFailedTurn semanticType then [js "codex_cli_turn_failed"] else [])
        ++ (if matchers.isFileChangeLike semanticType then
            fileChangeReasons matchers options semanticType payload else [])
        ++ if matchers.isCommandExecutionLike semanticType then
            match extractCodexCliJsonlCommandText payload with
            | none =>
              -- the write tool is not looked at any more
              if options.sandbox = some .readOnly then
                [js "codex_cli_readonly_jsonl_command_safety_unknown:" ++ semanticType]
              else []
            | some commandText =>
              commandReasons matchers options commandText
                ++ writeToolReasons matchers options semanticType
          else writeToolReasons matchers options semanticType

def inspectCodexCliJsonlSemantics (events : List CodexCliJsonlEvent) : List Str :=
  distinct (events.flatMap fun event => eventReasons matchers options event.event)

def exitCodeText : ℤ → Str
  | .ofNat n => Json.natText n
  | .negSucc n => cu '-' :: Json.natText (n + 1)

def inspectCodexCliCommandOutput (output : CodexCliCommandOutput) : CodexCliCommandInspection :=
  let parsed := parseCodexCliJsonl matchers output.stdout
  let blockingReasons :=
    (if output.exitCode = 0 then [] else [js "codex_cli_exit_code:" ++ exitCodeText output.exitCode])
      ++ (if parsed.parseErrors = [] then [] else [js "codex_cli_jsonl_parse_error"])
      ++ inspectCodexCliJsonlSemantics matchers options parsed.events
  { status := if blockingReasons = [] then .completed else .failed
    events := parsed.events.map fun event =>
      { line := event.line
        raw := matchers.redactText event.raw
        event :=
          match matchers.redactValue (.obj event.event) with
          | .obj redacted => redacted
          | _ => [] }
    parseErrors := parsed.parseErrors.map fun parseError =>
      { line := parseError.line
        raw := matchers.redactText parseError.raw
        error := matchers.redactText parseError.error }
    warnings := matchers.extractWarnings (output.stderr.getD [])
    blockingReasons }

end

end CodexRouter.Cli
