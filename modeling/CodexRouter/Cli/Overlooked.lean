import CodexRouter.Cli.Inspect
import CodexRouter.Js.Ascii
import CodexRouter.Js.JsonParse

/-!
# What an inspection overlooks

An inspection that completes has looked at the type of the item before that of the event, at the
first command text of an event, and not at every path. It says the truth about its output exactly
when there is nothing forbidden among what it has not looked at.
-/

open Js

namespace CodexRouter.Cli

section
variable [Runtime]

/-! ## Fields of an event -/

mutual

/-- The strings whose nearest key is one of the path keys. -/
def pathValues (underPathKey : Bool) : Json → List Str
  | .str text => if underPathKey then [text] else []
  | .arr items => itemPathValues underPathKey items
  | .obj members => memberPathValues members
  | .null | .bool _ | .num _ => []

def itemPathValues (underPathKey : Bool) : List Json → List Str
  | [] => []
  | item :: items => pathValues underPathKey item ++ itemPathValues underPathKey items

def memberPathValues : Payload → List Str
  | [] => []
  | (key, value) :: members =>
    pathValues (isPathKey (Runtime.toLowerCase key) || isPathListKey (Runtime.toLowerCase key)) value
      ++ memberPathValues members

end

/-- All paths of an event. -/
def eventPaths (payload : Payload) : List Str := (memberPathValues payload).filterMap inspectionPath

omit [Runtime] in
/-- The text of a field that is a string or an array of strings. -/
def fieldText (payload : Payload) (key : Str) : Option Str :=
  (stringField payload key).or (joinStringArray payload key)

omit [Runtime] in
/-- All command texts of an event. -/
def commandTexts (payload : Payload) : List Str :=
  ([payload, (itemOf payload).getD []].flatMap fun fields =>
    [js "command", js "cmd", js "argv", js "args"].filterMap fun key =>
      (fieldText fields key).map trim).filter (· ≠ [])

omit [Runtime] in
def eventTypes (payload : Payload) : List Str :=
  (itemType payload).toList ++ (stringField payload "type").toList

/-! ## Statements -/

variable (matchers : Matchers) (options : CodexCliSemanticInspectionOptions)

def CommandAllowed (text : Str) : Prop :=
  matchers.isRemoteWriteCommand text = false ∧
    (options.sandbox = some .readOnly → matchers.isWriteCommand text = false)

/-- An event of this type is not forbidden. -/
structure Allowed (payload : Payload) (type : Str) : Prop where
  turn : matchers.isFailedTurn type = false
  change : matchers.isFileChangeLike type = true → options.sandbox ≠ some .readOnly ∧
    (options.sandbox = some .workspaceWrite → eventPaths payload ≠ [] ∧
      ∀ file ∈ eventPaths payload, file ∈ options.targets)
  command : matchers.isCommandExecutionLike type = true →
    ∀ text ∈ commandTexts payload, CommandAllowed matchers options text
  tool : options.sandbox = some .readOnly → matchers.isWriteToolLike type = false

/-- The program has ended well, every line is an event, and no event is forbidden. -/
structure Truthful (output : CodexCliCommandOutput) : Prop where
  exit : output.exitCode = 0
  lines : ∀ line ∈ outputLines output.stdout, trim line ≠ [] →
    ∃ event, matchers.parseJson (trim line) = .ok (.obj event)
  events : ∀ event ∈ (parseCodexCliJsonl matchers output.stdout).events,
    ∀ type ∈ eventTypes event.event, Allowed matchers options event.event type

/-- What the inspection does not look at in an event is not forbidden: the type that the type of
the item hides, the command texts after the first, and the paths that are not collected. -/
structure NothingOverlooked (payload : Payload) : Prop where
  hidden : itemType payload ≠ none →
    ∀ type ∈ stringField payload "type", Allowed matchers options payload type
  commands : ∀ type ∈ getCodexCliJsonlSemanticEventType payload,
    matchers.isCommandExecutionLike type = true → ∀ text ∈ commandTexts payload,
      extractCodexCliJsonlCommandText payload ≠ some text → CommandAllowed matchers options text
  paths : ∀ type ∈ getCodexCliJsonlSemanticEventType payload,
    matchers.isFileChangeLike type = true → options.sandbox = some .workspaceWrite →
      ∀ file ∈ eventPaths payload, file ∉ extractCodexCliJsonlEventFilePaths payload →
        file ∈ options.targets

/-! ## Paths -/

lemma itemPathValues_texts {items : List Json} {texts : List Str}
    (h : stringItems items = some texts) : itemPathValues true items = texts := by
  induction items generalizing texts with
  | nil =>
    obtain rfl := Option.some.inj h
    rfl
  | cons item items ih =>
    cases item with
    | str text =>
      obtain ⟨rest, hrest, rfl⟩ := Option.map_eq_some_iff.mp h
      show [text] ++ itemPathValues true items = text :: rest
      rw [ih hrest, List.singleton_append]
    | _ => exact nomatch h

omit [Runtime] in
lemma append_subset_append {l l' r r' : List Str} (hl : l ⊆ l') (hr : r ⊆ r') :
    l ++ r ⊆ l' ++ r' :=
  List.append_subset.mpr ⟨List.subset_append_of_subset_left r' hl,
    List.subset_append_of_subset_right l' hr⟩

mutual

/-- Every collected path is one of the paths of the event. -/
theorem collected_subset (underPathKey : Bool) : (value : Json) →
    collectCodexCliJsonlEventFilePaths value ⊆ pathValues underPathKey value
  | .arr items => by
    rw [collectCodexCliJsonlEventFilePaths, pathValues]
    exact collectedItems_subset underPathKey items
  | .obj members => by
    rw [collectCodexCliJsonlEventFilePaths, pathValues]
    exact collectedMembers_subset members
  | .null | .bool _ | .num _ | .str _ => by
    rw [collectCodexCliJsonlEventFilePaths]
    exact List.nil_subset _

theorem collectedItems_subset (underPathKey : Bool) : (items : List Json) →
    collectItemPaths items ⊆ itemPathValues underPathKey items
  | [] => List.nil_subset _
  | item :: items => by
    rw [collectItemPaths, itemPathValues]
    exact append_subset_append (collected_subset underPathKey item)
      (collectedItems_subset underPathKey items)

theorem collectedMembers_subset : (members : Payload) →
    collectMemberPaths members ⊆ memberPathValues members
  | [] => List.nil_subset _
  | (key, .str text) :: members => by
    rw [collectMemberPaths, memberPathValues, pathValues]
    apply append_subset_append _ (collectedMembers_subset members)
    cases isPathKey (Runtime.toLowerCase key)
    · exact List.nil_subset _
    · exact List.Subset.refl [text]
  | (key, .arr items) :: members => by
    rw [collectMemberPaths, memberPathValues, pathValues]
    apply append_subset_append _ (collectedMembers_subset members)
    cases htexts : stringItems items with
    | none => exact collectedItems_subset _ items
    | some texts =>
      dsimp only
      split
      · rename_i hkey
        rw [hkey, Bool.or_true, itemPathValues_texts htexts]
        exact List.Subset.refl texts
      · exact collectedItems_subset _ items
  | (key, .null) :: members | (key, .bool _) :: members | (key, .num _) :: members
  | (key, .obj _) :: members => by
    rw [collectMemberPaths, memberPathValues]
    · exact append_subset_append (collected_subset _ _) (collectedMembers_subset members)
    · exact nofun
    · exact nofun

end

/-- The inspection finds no path where there is none. -/
lemma extractPaths_subset (payload : Payload) :
    extractCodexCliJsonlEventFilePaths payload ⊆ eventPaths payload := by
  intro file hfile
  unfold extractCodexCliJsonlEventFilePaths at hfile
  rw [mem_distinct, List.mem_filterMap] at hfile
  obtain ⟨path, hpath, hinspection⟩ := hfile
  exact List.mem_filterMap.mpr ⟨path, collectedMembers_subset payload hpath, hinspection⟩

/-! ## Events -/

section

variable {matchers : Matchers} {options : CodexCliSemanticInspectionOptions}

omit [Runtime] in
lemma commandReasons_eq_nil {text : Str} :
    commandReasons matchers options text = [] ↔ CommandAllowed matchers options text := by
  unfold commandReasons CommandAllowed
  rw [List.append_eq_nil_iff]
  simp

omit [Runtime] in
lemma writeToolReasons_eq_nil {type : Str} :
    writeToolReasons matchers options type = [] ↔
      (options.sandbox = some .readOnly → matchers.isWriteToolLike type = false) := by
  unfold writeToolReasons
  simp

lemma fileChangeReasons_eq_nil {type : Str} {payload : Payload}
    (h : fileChangeReasons matchers options type payload = []) :
    options.sandbox ≠ some .readOnly ∧ (options.sandbox = some .workspaceWrite →
      extractCodexCliJsonlEventFilePaths payload ≠ [] ∧
        ∀ file ∈ extractCodexCliJsonlEventFilePaths payload, file ∈ options.targets) := by
  unfold fileChangeReasons at h
  split at h
  · exact nomatch h
  · rename_i hsandbox
    rw [hsandbox]
    refine ⟨by decide, fun _ => ?_⟩
    rw [List.append_eq_nil_iff, List.map_eq_nil_iff, List.filter_eq_nil_iff] at h
    refine ⟨by simpa using h.1, ?_⟩
    intro file hfile
    simpa using h.2 file hfile
  · rename_i hsandbox
    rw [hsandbox]
    exact ⟨nofun, nofun⟩

/-- What an event that is not blocked has shown of its type. -/
lemma eventReasons_eq_nil (hstrict : options.strictUnknownEvents = some true) {payload : Payload}
    (h : eventReasons matchers options payload = []) :
    ∃ type, getCodexCliJsonlSemanticEventType payload = some type ∧
      matchers.isFailedTurn type = false ∧
      (matchers.isFileChangeLike type = true →
        fileChangeReasons matchers options type payload = []) ∧
      (matchers.isCommandExecutionLike type = true →
        ∀ text ∈ extractCodexCliJsonlCommandText payload, CommandAllowed matchers options text) ∧
      (options.sandbox = some .readOnly → matchers.isWriteToolLike type = false) := by
  unfold eventReasons at h
  split at h
  · rw [if_pos hstrict] at h
    exact nomatch h
  · rename_i type htype
    refine ⟨type, htype, ?_⟩
    split at h
    · exact nomatch h
    simp only [List.append_eq_nil_iff] at h
    obtain ⟨⟨⟨-, hturn⟩, hchange⟩, hrest⟩ := h
    refine ⟨by simpa using hturn, ?_, ?_, ?_⟩
    · intro hlike
      rw [if_pos hlike] at hchange
      exact hchange
    · intro hlike text htext
      rw [if_pos hlike, htext] at hrest
      exact commandReasons_eq_nil.mp (List.append_eq_nil_iff.mp hrest).1
    · split at hrest
      · split at hrest
        · -- without a command text only an event of another sandbox passes
          intro hsandbox
          rw [if_pos hsandbox] at hrest
          exact nomatch hrest
        · exact writeToolReasons_eq_nil.mp (List.append_eq_nil_iff.mp hrest).2
      · exact writeToolReasons_eq_nil.mp hrest

omit [Runtime] in
lemma mem_eventTypes {payload : Payload} {type : Str} :
    type ∈ eventTypes payload ↔ getCodexCliJsonlSemanticEventType payload = some type ∨
      (itemType payload ≠ none ∧ stringField payload "type" = some type) := by
  unfold eventTypes getCodexCliJsonlSemanticEventType
  rw [List.mem_append, Option.mem_toList, Option.mem_toList]
  cases itemType payload with
  | none => simp
  | some itemType => simp

/-- An event that is not blocked is not forbidden exactly when nothing is overlooked in it. -/
theorem allowed_iff_nothingOverlooked (hstrict : options.strictUnknownEvents = some true)
    {payload : Payload} (h : eventReasons matchers options payload = []) :
    (∀ type ∈ eventTypes payload, Allowed matchers options payload type) ↔
      NothingOverlooked matchers options payload := by
  obtain ⟨type, htype, hturn, hchange, hcommand, htool⟩ := eventReasons_eq_nil hstrict h
  constructor
  · intro hallowed
    have hseen := hallowed type (mem_eventTypes.mpr (.inl htype))
    refine ⟨?_, ?_, ?_⟩
    · intro hitem other hother
      exact hallowed other (mem_eventTypes.mpr (.inr ⟨hitem, hother⟩))
    · intro other hother hlike text htext _
      obtain rfl := Option.some.inj (htype.symm.trans hother)
      exact hseen.command hlike text htext
    · intro other hother hlike hsandbox file hfile _
      obtain rfl := Option.some.inj (htype.symm.trans hother)
      exact ((hseen.change hlike).2 hsandbox).2 file hfile
  · intro hnothing other hother
    rcases mem_eventTypes.mp hother with hseen | ⟨hitem, hhidden⟩
    · obtain rfl := Option.some.inj (htype.symm.trans hseen)
      refine ⟨hturn, ?_, ?_, htool⟩
      · intro hlike
        obtain ⟨hsandbox, hpaths⟩ := fileChangeReasons_eq_nil (hchange hlike)
        refine ⟨hsandbox, fun hwrite => ⟨?_, ?_⟩⟩
        · intro hnone
          have hsubset := extractPaths_subset payload
          rw [hnone, List.subset_nil] at hsubset
          exact (hpaths hwrite).1 hsubset
        · intro file hfile
          by_cases hseen : file ∈ extractCodexCliJsonlEventFilePaths payload
          · exact (hpaths hwrite).2 file hseen
          · exact hnothing.paths type htype hlike hwrite file hfile hseen
      · intro hlike text htext
        by_cases hseen : extractCodexCliJsonlCommandText payload = some text
        · exact hcommand hlike text hseen
        · exact hnothing.commands type htype hlike text htext hseen
    · exact hnothing.hidden hitem other hhidden

end

/-! ## Outputs -/

variable {matchers options}

omit [Runtime] in
lemma parseLine_left {line : Str} {index : ℕ}
    (h : (parseLine matchers line index).filterMap Sum.getLeft? = []) (hblank : trim line ≠ []) :
    ∃ event, matchers.parseJson (trim line) = .ok (.obj event) := by
  unfold parseLine at h
  dsimp only at h
  rw [if_neg hblank] at h
  cases hparse : matchers.parseJson (trim line) with
  | error message =>
    rw [hparse] at h
    exact nomatch h
  | ok value =>
    rw [hparse] at h
    cases value with
    | obj event => exact ⟨event, rfl⟩
    | _ => exact nomatch h

omit [Runtime] in
lemma lines_of_parseErrors {output : Str} (h : (parseCodexCliJsonl matchers output).parseErrors = []) :
    ∀ line ∈ outputLines output, trim line ≠ [] →
      ∃ event, matchers.parseJson (trim line) = .ok (.obj event) := by
  intro line hline hblank
  obtain ⟨index, hindex, rfl⟩ := List.getElem_of_mem hline
  have hmem : ((outputLines output)[index], index) ∈ (outputLines output).zipIdx :=
    List.mk_mem_zipIdx_iff_getElem?.mpr (List.getElem?_eq_getElem hindex)
  unfold parseCodexCliJsonl at h
  dsimp only at h
  rw [List.filterMap_flatMap, List.flatMap_eq_nil_iff] at h
  exact parseLine_left (h _ hmem) hblank

end

/-! ## A failed turn with an item -/

section
attribute [local instance] asciiRuntime

/-- The matchers of the source, where no text is secret and no command is run. -/
def plainMatchers : Matchers where
  parseJson text :=
    match Json.parse? text with
    | some value => .ok value
    | none => .error "Unexpected token"
  isFailedTurn := isCodexCliFailedTurnEventType
  isFileChangeLike := isCodexCliFileChangeLikeEventType
  isCommandExecutionLike := isCodexCliCommandExecutionLikeEventType
  isProbeToolLike := isCodexCliProbeToolLikeEventType
  isWriteToolLike := isCodexCliWriteToolLikeEventType
  isWriteCommand _ := false
  isRemoteWriteCommand _ := false
  isSecretLikeFieldKey _ := false
  redactText := id
  redactValue := id
  extractWarnings _ := []

def readOnlyOptions : CodexCliSemanticInspectionOptions := ⟨some .readOnly, none, some true⟩

def printed (stdout : String) : CodexCliCommandOutput := ⟨0, stdout, none⟩

def message : CodexCliCommandOutput :=
  printed "\x7b\"type\":\"item.completed\",\"item\":\x7b\"type\":\"agent_message\"\x7d\x7d\n"

def failedTurn : CodexCliCommandOutput :=
  printed "\x7b\"type\":\"turn.failed\",\"item\":\x7b\"type\":\"agent_message\"\x7d\x7d\n"

def itemPayload (type : Str) : Payload :=
  [("type", .str type), ("item", .obj [("type", .str "agent_message")])]

end

end CodexRouter.Cli
