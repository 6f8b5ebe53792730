import CodexRouter.Js.Decimal

/-!
# Bounded JSON

What the wire accepts is inspected with a stack of its own, before any schema sees it. The values
are those of the language: a container has an identity, and a property may be no plain data.
-/

open Js

namespace CodexRouter.Adapter

def maxV2WireJsonDepth : ℕ := 64

def maxV2WireJsonNodes : ℕ := 50000

def maxV2WireJsonTextCodeUnits : ℕ := 8 * 1024 * 1024

/-- A value of the language. A number that is not finite is `none`; `other` is neither a JSON type
nor an object, `hidden` stands for a property that is absent, not enumerable or an accessor, and a
member whose key is a symbol has no name. `plain` says that the prototype is the usual one. -/
inductive WireValue where
  | null
  | bool (b : Bool)
  | number (n : Option Js.Num)
  | str (s : Str)
  | other
  | hidden
  | array (ref : ℕ) (plain : Bool) (ownKeys : ℕ) (items : List WireValue)
  | object (ref : ℕ) (plain : Bool) (members : List (Option Str × WireValue))

inductive InspectionReason where
  | depthExceeded | nodeLimitExceeded | textLimitExceeded | notJson
  deriving DecidableEq

abbrev V2WireJsonInspection := Except InspectionReason Unit

namespace WireValue

def isHidden : WireValue → Bool
  | hidden => true
  | _ => false

end WireValue

/-- The variables of the loop; the top of the stack comes first. -/
structure Inspection where
  stack : List (WireValue × ℕ)
  seenObjects : List ℕ
  nodes : ℕ
  textCodeUnits : ℕ

/-- The members are pushed from the last to the first. -/
def pushMembers (depth : ℕ) :
    List (Option Str × WireValue) → Inspection → Except InspectionReason Inspection
  | [], state => .ok state
  | (none, _) :: _, _ => .error .notJson
  | (some key, value) :: rest, state =>
    if value.isHidden then .error .notJson
    else if state.textCodeUnits + key.length > maxV2WireJsonTextCodeUnits then
      .error .textLimitExceeded
    else pushMembers depth rest { state with
      textCodeUnits := state.textCodeUnits + key.length
      stack := (value, depth) :: state.stack }

/-- One turn of the loop, once its entry was taken from the stack and counted. -/
def inspectEntry (value : WireValue) (depth : ℕ) (state : Inspection) :
    Except InspectionReason Inspection :=
  match value with
  | .null | .bool _ => .ok state
  | .number n => if n = none then .error .notJson else .ok state
  | .str s =>
    if state.textCodeUnits + s.length > maxV2WireJsonTextCodeUnits then .error .textLimitExceeded
    else .ok { state with textCodeUnits := state.textCodeUnits + s.length }
  | .other | .hidden => .error .notJson
  | .array ref plain ownKeys items =>
    if ref ∈ state.seenObjects then .error .notJson
    else if !plain then .error .notJson
    else if state.nodes + state.stack.length + items.length > maxV2WireJsonNodes then
      .error .nodeLimitExceeded
    else if ownKeys ≠ items.length + 1 ∨ items.any (·.isHidden) then .error .notJson
    else .ok { state with
      seenObjects := ref :: state.seenObjects
      stack := items.map (·, depth + 1) ++ state.stack }
  | .object ref plain members =>
    if ref ∈ state.seenObjects then .error .notJson
    else if !plain then .error .notJson
    else if state.nodes + state.stack.length + members.length > maxV2WireJsonNodes then
      .error .nodeLimitExceeded
    else pushMembers (depth + 1) members.reverse
      { state with seenObjects := ref :: state.seenObjects }

/-- The loop; `none` means that the fuel was used up. -/
def inspectLoop : ℕ → Inspection → Option V2WireJsonInspection
  | 0, _ => none
  | fuel + 1, state =>
    match state.stack with
    | [] => some (.ok ())
    | (value, depth) :: stack =>
      if state.nodes + 1 > maxV2WireJsonNodes then some (.error .nodeLimitExceeded)
      else if depth > maxV2WireJsonDepth then some (.error .depthExceeded)
      else
        match inspectEntry value depth { state with stack, nodes := state.nodes + 1 } with
        | .ok next => inspectLoop fuel next
        | .error reason => some (.error reason)

def inspectV2WireJsonValue (input : WireValue) : Option V2WireJsonInspection :=
  inspectLoop (maxV2WireJsonNodes + 1) ⟨[(input, 0)], [], 0, 0⟩

/-! ## The nodes of a value -/

namespace WireValue

mutual

/-- The nodes with their depths, in the order in which the loop takes them. -/
def visits (depth : ℕ) : WireValue → List (WireValue × ℕ)
  | array ref plain ownKeys items =>
    (array ref plain ownKeys items, depth) :: visitsItems (depth + 1) items
  | object ref plain members =>
    (object ref plain members, depth) :: visitsMembers (depth + 1) members
  | value => [(value, depth)]

def visitsItems (depth : ℕ) : List WireValue → List (WireValue × ℕ)
  | [] => []
  | value :: rest => visits depth value ++ visitsItems depth rest

def visitsMembers (depth : ℕ) : List (Option Str × WireValue) → List (WireValue × ℕ)
  | [] => []
  | (_, value) :: rest => visits depth value ++ visitsMembers depth rest

end

/-- The text of the node itself: of a string, or of the keys of an object. -/
def ownText : WireValue → ℕ
  | str s => s.length
  | object _ _ members => (members.map fun member => (member.1.map List.length).getD 0).sum
  | _ => 0

/-- The node is of a JSON type and its properties are plain data. -/
def isData : WireValue → Bool
  | null | bool _ | number _ | str _ => true
  | other | hidden => false
  | array _ plain ownKeys items =>
    plain && ownKeys = items.length + 1 && items.all fun item => !item.isHidden
  | object _ plain members =>
    plain && members.all fun member => member.1.isSome && !member.2.isHidden

def isFinite : WireValue → Bool
  | number n => n.isSome
  | _ => true

/-- The identity of a container. -/
def ref? : WireValue → Option ℕ
  | array ref _ _ _ | object ref _ _ => some ref
  | _ => none

/-- The value is a JSON tree: no container is met twice. Its numbers need not be finite. -/
structure IsJsonTree (value : WireValue) : Prop where
  data : ∀ node ∈ value.visits 0, node.1.isData = true
  tree : ((value.visits 0).filterMap (·.1.ref?)).Nodup

/-- The limits of the wire. -/
structure Bounded (value : WireValue) : Prop where
  nodes : (value.visits 0).length ≤ maxV2WireJsonNodes
  depth : ∀ node ∈ value.visits 0, node.2 ≤ maxV2WireJsonDepth
  finite : ∀ node ∈ value.visits 0, node.1.isFinite = true
  text : ((value.visits 0).map (·.1.ownText)).sum ≤ maxV2WireJsonTextCodeUnits

end WireValue

/-! ## One turn -/

namespace WireValue

def children : WireValue → List WireValue
  | array _ _ _ items => items
  | object _ _ members => members.map (·.2)
  | _ => []

lemma visitsItems_eq (depth : ℕ) (items : List WireValue) :
    visitsItems depth items = items.flatMap (·.visits depth) := by
  induction items with
  | nil => rfl
  | cons value rest ih => rw [visitsItems, List.flatMap_cons, ih]

lemma visitsMembers_eq (depth : ℕ) (members : List (Option Str × WireValue)) :
    visitsMembers depth members = (members.map (·.2)).flatMap (·.visits depth) := by
  induction members with
  | nil => rfl
  | cons member rest ih => rw [visitsMembers, List.map_cons, List.flatMap_cons, ih]

/-- A node comes before the nodes below it. -/
lemma visits_eq (depth : ℕ) (value : WireValue) :
    value.visits depth = (value, depth) :: value.children.flatMap (·.visits (depth + 1)) := by
  cases value with
  | array ref plain ownKeys items => rw [visits, visitsItems_eq, children]
  | object ref plain members => rw [visits, visitsMembers_eq, children]
  | _ => rfl

lemma isData_array {ref ownKeys : ℕ} {plain : Bool} {items : List WireValue} :
    (array ref plain ownKeys items).isData = true ↔
      plain = true ∧ ownKeys = items.length + 1 ∧ items.any (·.isHidden) = false := by
  show (plain && decide (ownKeys = items.length + 1) && items.all fun item => !item.isHidden) =
    true ↔ _
  rw [Bool.and_eq_true, Bool.and_eq_true, decide_eq_true_eq, and_assoc, List.any_eq_false,
    List.all_eq_true]
  simp only [Bool.not_eq_true', Bool.not_eq_true]

lemma isData_object {ref : ℕ} {plain : Bool} {members : List (Option Str × WireValue)} :
    (object ref plain members).isData = true ↔
      plain = true ∧ ∀ member ∈ members, member.1.isSome = true ∧ member.2.isHidden = false := by
  show (plain && members.all fun member => member.1.isSome && !member.2.isHidden) = true ↔ _
  rw [Bool.and_eq_true, List.all_eq_true]
  simp only [Bool.and_eq_true, Bool.not_eq_true']

end WireValue

/-- The nodes that the stack still holds. -/
def pending (stack : List (WireValue × ℕ)) : List (WireValue × ℕ) :=
  stack.flatMap fun entry => entry.1.visits entry.2

lemma pending_cons (value : WireValue) (depth : ℕ) (stack : List (WireValue × ℕ)) :
    pending ((value, depth) :: stack) =
      (value, depth) :: pending (value.children.map (·, depth + 1) ++ stack) := by
  unfold pending
  rw [List.flatMap_cons, value.visits_eq, List.flatMap_append, List.flatMap_map]
  rfl

lemma length_le_pending (stack : List (WireValue × ℕ)) : stack.length ≤ (pending stack).length := by
  induction stack with
  | nil => exact Nat.zero_le _
  | cons entry stack ih =>
    unfold pending at *
    rw [List.flatMap_cons, entry.1.visits_eq, List.length_append, List.length_cons, List.length_cons]
    omega

/-- The text of the keys. -/
def keysText (members : List (Option Str × WireValue)) : ℕ :=
  (members.map fun member => (member.1.map List.length).getD 0).sum

lemma pushMembers_eq_ok {depth : ℕ} {members : List (Option Str × WireValue)}
    {state next : Inspection} (htext : state.textCodeUnits ≤ maxV2WireJsonTextCodeUnits) :
    pushMembers depth members state = .ok next ↔
      (∀ member ∈ members, member.1.isSome = true ∧ member.2.isHidden = false) ∧
      state.textCodeUnits + keysText members ≤ maxV2WireJsonTextCodeUnits ∧
      next = { state with
        textCodeUnits := state.textCodeUnits + keysText members
        stack := (members.reverse.map (·.2, depth)) ++ state.stack } := by
  induction members generalizing state with
  | nil =>
    rw [pushMembers, Except.ok.injEq]
    constructor
    · intro h
      exact ⟨List.forall_mem_nil _, htext, h.symm⟩
    · intro ⟨_, _, h⟩
      exact h.symm
  | cons member rest ih =>
    obtain ⟨key, value⟩ := member
    have hkeys : keysText ((key, value) :: rest) = (key.map List.length).getD 0 + keysText rest := by
      unfold keysText
      rw [List.map_cons, List.sum_cons]
    cases key with
    | none =>
      rw [pushMembers, List.forall_mem_cons]
      simp
    | some key =>
      rw [pushMembers, hkeys, List.forall_mem_cons]
      dsimp only [Option.map_some, Option.getD_some, Option.isSome_some]
      split_ifs with hhidden htoo
      · simp [hhidden]
      · constructor
        · exact nofun
        · intro ⟨_, hle, _⟩
          omega
      · rw [ih (by dsimp only; omega)]
        dsimp only
        simp only [Bool.not_eq_true] at hhidden
        simp only [hhidden, and_self, true_and, List.reverse_cons, List.map_append, List.map_cons,
          List.map_nil, List.append_assoc, List.cons_append, List.nil_append, add_assoc]

lemma keysText_reverse (members : List (Option Str × WireValue)) :
    keysText members.reverse = keysText members := by
  unfold keysText
  rw [List.map_reverse, List.sum_reverse]

/-- The conditions under which an entry is taken. -/
structure Takes (value : WireValue) (state : Inspection) : Prop where
  data : value.isData = true
  finite : value.isFinite = true
  unseen : ∀ ref ∈ value.ref?, ref ∉ state.seenObjects
  text : state.textCodeUnits + value.ownText ≤ maxV2WireJsonTextCodeUnits

/-- The state after an entry. -/
def taken (value : WireValue) (depth : ℕ) (state : Inspection) : Inspection where
  stack := value.children.map (·, depth + 1) ++ state.stack
  seenObjects := value.ref?.toList ++ state.seenObjects
  nodes := state.nodes
  textCodeUnits := state.textCodeUnits + value.ownText

lemma members_pushed (ref : ℕ) (plain : Bool) {depth : ℕ}
    (members : List (Option Str × WireValue)) :
    members.map (·.2, depth) = (WireValue.object ref plain members).children.map (·, depth) := by
  rw [WireValue.children, List.map_map]
  rfl

lemma inspectEntry_ok {value : WireValue} {depth : ℕ} {state next : Inspection}
    (htext : state.textCodeUnits ≤ maxV2WireJsonTextCodeUnits)
    (h : inspectEntry value depth state = .ok next) :
    Takes value state ∧ next = taken value depth state := by
  cases value with
  | null | bool =>
    obtain rfl := Except.ok.inj h
    exact ⟨⟨rfl, rfl, nofun, htext⟩, rfl⟩
  | number n =>
    rw [inspectEntry] at h
    split_ifs at h with hn
    obtain rfl := Except.ok.inj h
    exact ⟨⟨rfl, Option.isSome_iff_ne_none.mpr hn, nofun, htext⟩, rfl⟩
  | str s =>
    rw [inspectEntry] at h
    split_ifs at h with htoo
    obtain rfl := Except.ok.inj h
    exact ⟨⟨rfl, rfl, nofun, not_lt.mp htoo⟩, rfl⟩
  | other | hidden => exact nomatch h
  | array ref plain ownKeys items =>
    rw [inspectEntry] at h
    split_ifs at h with hseen hplain hnodes hkeys
    obtain rfl := Except.ok.inj h
    simp only [not_or, not_not, Bool.not_eq_true, Bool.not_eq_false'] at hplain hkeys
    refine ⟨⟨WireValue.isData_array.mpr ⟨hplain, hkeys⟩, rfl, ?_, htext⟩, rfl⟩
    intro other hother
    obtain rfl := Option.some.inj hother
    exact hseen
  | object ref plain members =>
    rw [inspectEntry] at h
    split_ifs at h with hseen hplain hnodes
    obtain ⟨hmembers, hle, rfl⟩ := (pushMembers_eq_ok (by exact htext)).mp h
    simp only [Bool.not_eq_true, Bool.not_eq_false'] at hplain
    rw [keysText_reverse] at hle
    refine ⟨⟨WireValue.isData_object.mpr ⟨hplain, ?_⟩, rfl, ?_, hle⟩, ?_⟩
    · exact fun member hmember => hmembers member (List.mem_reverse.mpr hmember)
    · intro other hother
      obtain rfl := Option.some.inj hother
      exact hseen
    · rw [List.reverse_reverse, keysText_reverse, members_pushed ref plain]
      rfl

/-- An entry that meets the conditions is taken, if its children fit. -/
lemma inspectEntry_eq {value : WireValue} {depth : ℕ} {state : Inspection}
    (h : Takes value state) (hnodes : state.nodes + state.stack.length + value.children.length
      ≤ maxV2WireJsonNodes) :
    inspectEntry value depth state = .ok (taken value depth state) := by
  cases value with
  | null | bool => rfl
  | number n =>
    rw [inspectEntry, if_neg (Option.isSome_iff_ne_none.mp h.finite)]
    rfl
  | str s =>
    have htext : ¬state.textCodeUnits + s.length > maxV2WireJsonTextCodeUnits := not_lt.mpr h.text
    rw [inspectEntry, if_neg htext]
    rfl
  | other | hidden => exact absurd h.data (by decide)
  | array ref plain ownKeys items =>
    obtain ⟨hplain, hkeys⟩ := WireValue.isData_array.mp h.data
    have hunseen : ref ∉ state.seenObjects := h.unseen ref rfl
    have hkeys' : ¬(ownKeys ≠ items.length + 1 ∨ items.any (·.isHidden) = true) := by
      rw [not_or, not_not, Bool.not_eq_true]
      exact hkeys
    have hfit : ¬state.nodes + state.stack.length + items.length > maxV2WireJsonNodes :=
      not_lt.mpr hnodes
    rw [inspectEntry, if_neg hunseen, if_neg (by rw [hplain]; decide), if_neg hfit, if_neg hkeys']
    rfl
  | object ref plain members =>
    obtain ⟨hplain, hmembers⟩ := WireValue.isData_object.mp h.data
    have hunseen : ref ∉ state.seenObjects := h.unseen ref rfl
    have hfit : ¬state.nodes + state.stack.length + members.length > maxV2WireJsonNodes := by
      rw [WireValue.children, List.length_map] at hnodes
      exact not_lt.mpr hnodes
    have hle : state.textCodeUnits + keysText members ≤ maxV2WireJsonTextCodeUnits := h.text
    rw [inspectEntry, if_neg hunseen, if_neg (by rw [hplain]; decide), if_neg hfit,
      pushMembers_eq_ok (by dsimp only; omega)]
    refine ⟨fun member hmember => hmembers member (List.mem_reverse.mp hmember), ?_, ?_⟩
    · rw [keysText_reverse]
      exact hle
    · rw [List.reverse_reverse, keysText_reverse, members_pushed ref plain]
      rfl

/-! ## The whole loop -/

/-- What the state has left is within the limits, with what it has counted. -/
structure Passes (state : Inspection) : Prop where
  nodes : state.nodes + (pending state.stack).length ≤ maxV2WireJsonNodes
  each : ∀ node ∈ pending state.stack, node.2 ≤ maxV2WireJsonDepth ∧ node.1.isData = true ∧
    node.1.isFinite = true
  text : state.textCodeUnits + ((pending state.stack).map (·.1.ownText)).sum ≤
    maxV2WireJsonTextCodeUnits
  tree : ((pending state.stack).filterMap (·.1.ref?) ++ state.seenObjects).Nodup

/-- Taking an entry keeps what is left within the limits, and out of them. -/
lemma passes_taken {value : WireValue} {depth : ℕ} {stack : List (WireValue × ℕ)}
    {state : Inspection} (hstack : state.stack = (value, depth) :: stack)
    (hdepth : depth ≤ maxV2WireJsonDepth)
    (h : Takes value { state with stack, nodes := state.nodes + 1 }) :
    Passes (taken value depth { state with stack, nodes := state.nodes + 1 }) ↔ Passes state := by
  have hpending := pending_cons value depth stack
  have htree : (((value, depth) :: pending (value.children.map (·, depth + 1) ++ stack)).filterMap
      (·.1.ref?) ++ state.seenObjects).Perm
      ((pending (value.children.map (·, depth + 1) ++ stack)).filterMap (·.1.ref?) ++
        (value.ref?.toList ++ state.seenObjects)) := by
    rw [List.filterMap_cons]
    cases value.ref? with
    | none => exact List.Perm.refl _
    | some ref => exact List.perm_middle.symm
  constructor
  · intro hpasses
    constructor
    · have hnodes := hpasses.nodes
      rw [hstack, hpending, List.length_cons]
      dsimp only [taken] at hnodes
      omega
    · rw [hstack, hpending, List.forall_mem_cons]
      exact ⟨⟨hdepth, h.data, h.finite⟩, hpasses.each⟩
    · have htext := hpasses.text
      rw [hstack, hpending, List.map_cons, List.sum_cons]
      dsimp only [taken] at htext ⊢
      omega
    · rw [hstack, hpending]
      exact htree.nodup_iff.mpr hpasses.tree
  · intro hpasses
    constructor
    · have hnodes := hpasses.nodes
      rw [hstack, hpending, List.length_cons] at hnodes
      dsimp only [taken]
      omega
    · have heach := hpasses.each
      rw [hstack, hpending, List.forall_mem_cons] at heach
      exact heach.2
    · have htext := hpasses.text
      rw [hstack, hpending, List.map_cons, List.sum_cons] at htext
      dsimp only [taken] at htext ⊢
      omega
    · have hnodup := hpasses.tree
      rw [hstack, hpending] at hnodup
      exact htree.nodup_iff.mp hnodup

/-- What is left passes only if the entry on top is taken. -/
lemma takes_of_passes {value : WireValue} {depth : ℕ} {stack : List (WireValue × ℕ)}
    {state : Inspection} (hstack : state.stack = (value, depth) :: stack) (h : Passes state) :
    Takes value { state with stack, nodes := state.nodes + 1 } ∧
      depth ≤ maxV2WireJsonDepth ∧
      state.nodes + 1 + stack.length + value.children.length ≤ maxV2WireJsonNodes := by
  have hpending := pending_cons value depth stack
  obtain ⟨hnodes, heach, htext, htree⟩ := h
  rw [hstack, hpending] at hnodes heach htext htree
  obtain ⟨⟨hdepth, hdata, hfinite⟩, -⟩ := List.forall_mem_cons.mp heach
  have hchildren := length_le_pending (value.children.map (·, depth + 1) ++ stack)
  rw [List.length_append, List.length_map] at hchildren
  rw [List.length_cons] at hnodes
  rw [List.map_cons, List.sum_cons] at htext
  refine ⟨⟨hdata, hfinite, ?_, ?_⟩, hdepth, by omega⟩
  · intro ref href hseen
    have hfirst : ref ∈ ((value, depth) :: pending (value.children.map (·, depth + 1) ++ stack)).filterMap
        (·.1.ref?) := List.mem_filterMap.mpr ⟨_, List.mem_cons_self, href⟩
    exact List.disjoint_of_nodup_append htree hfirst hseen
  · dsimp only at htext ⊢
    omega

/-- The loop succeeds exactly when what is left passes, and the fuel suffices. -/
theorem inspectLoop_spec {fuel : ℕ} {state : Inspection} (hnodes : state.nodes ≤ maxV2WireJsonNodes)
    (hfuel : maxV2WireJsonNodes < state.nodes + fuel)
    (htext : state.textCodeUnits ≤ maxV2WireJsonTextCodeUnits) (hseen : state.seenObjects.Nodup) :
    (inspectLoop fuel state = some (.ok ()) ↔ Passes state) ∧
      inspectLoop fuel state ≠ none := by
  induction fuel generalizing state with
  | zero => omega
  | succ fuel ih =>
    rw [inspectLoop]
    cases hstack : state.stack with
    | nil =>
      refine ⟨iff_of_true rfl ?_, Option.some_ne_none _⟩
      constructor
      · rw [hstack]
        exact hnodes
      · rw [hstack]
        exact List.forall_mem_nil _
      · rw [hstack]
        exact htext
      · rw [hstack]
        exact hseen
    | cons entry stack =>
      obtain ⟨value, depth⟩ := entry
      have hmust := @takes_of_passes value depth stack state hstack
      dsimp only
      split_ifs with htoo hdeep
      · refine ⟨iff_of_false (by simp) ?_, Option.some_ne_none _⟩
        intro hpasses
        obtain ⟨-, -, hfit⟩ := hmust hpasses
        omega
      · refine ⟨iff_of_false (by simp) ?_, Option.some_ne_none _⟩
        intro hpasses
        obtain ⟨-, hdepth, -⟩ := hmust hpasses
        omega
      · cases hentry : inspectEntry value depth { state with stack, nodes := state.nodes + 1 } with
        | error reason =>
          refine ⟨iff_of_false (by simp) ?_, Option.some_ne_none _⟩
          intro hpasses
          obtain ⟨htakes, -, hfit⟩ := hmust hpasses
          rw [inspectEntry_eq htakes hfit] at hentry
          exact nomatch hentry
        | ok next =>
          obtain ⟨htakes, rfl⟩ := inspectEntry_ok (by exact htext) hentry
          dsimp only
          rw [← passes_taken hstack (not_lt.mp hdeep) htakes]
          apply ih
          · exact not_lt.mp htoo
          · dsimp only [taken]
            omega
          · exact htakes.text
          · dsimp only [taken]
            have hunseen := htakes.unseen
            cases href : value.ref? with
            | none => exact hseen
            | some ref => exact List.nodup_cons.mpr ⟨hunseen ref href, hseen⟩

/-! ## The order of members -/

namespace WireValue

/-- The values are the same up to the order of the members of their objects. -/
inductive Reordered : WireValue → WireValue → Prop where
  | refl (value : WireValue) : Reordered value value
  | trans {a b c : WireValue} : Reordered a b → Reordered b c → Reordered a c
  | members {m m' : List (Option Str × WireValue)} (ref : ℕ) (plain : Bool) : m.Perm m' →
      Reordered (object ref plain m) (object ref plain m')
  | member {a b : WireValue} (ref : ℕ) (plain : Bool) (before after : List (Option Str × WireValue))
      (key : Option Str) : Reordered a b →
      Reordered (object ref plain (before ++ (key, a) :: after))
        (object ref plain (before ++ (key, b) :: after))
  | item {a b : WireValue} (ref ownKeys : ℕ) (plain : Bool) (before after : List WireValue) :
      Reordered a b → Reordered (array ref plain ownKeys (before ++ a :: after))
        (array ref plain ownKeys (before ++ b :: after))

/-- What the limits see of a node. -/
structure Profile where
  depth : ℕ
  data : Bool
  finite : Bool
  text : ℕ
  ref : Option ℕ

def profile (node : WireValue × ℕ) : Profile :=
  ⟨node.2, node.1.isData, node.1.isFinite, node.1.ownText, node.1.ref?⟩

def profiles (depth : ℕ) (value : WireValue) : List Profile := (value.visits depth).map profile

lemma profiles_eq (depth : ℕ) (value : WireValue) :
    value.profiles depth =
      profile (value, depth) :: value.children.flatMap (profiles (depth + 1)) := by
  unfold profiles
  rw [visits_eq, List.map_cons, List.map_flatMap]

/-- A node with other children below it, of which one is reordered. -/
lemma profiles_perm {a b v w : WireValue} {before after : List WireValue} {depth : ℕ}
    (hv : v.children = before ++ a :: after) (hw : w.children = before ++ b :: after)
    (hnode : profile (v, depth) = profile (w, depth))
    (h : (a.profiles (depth + 1)).Perm (b.profiles (depth + 1))) :
    (v.profiles depth).Perm (w.profiles depth) := by
  rw [profiles_eq, profiles_eq, hv, hw, hnode, List.flatMap_append, List.flatMap_append,
    List.flatMap_cons, List.flatMap_cons]
  exact ((h.append_right _).append_left _).cons _

lemma Reordered.profiles {v w : WireValue} (h : Reordered v w) :
    v.isHidden = w.isHidden ∧ ∀ depth, (v.profiles depth).Perm (w.profiles depth) := by
  induction h with
  | refl => exact ⟨rfl, fun depth => List.Perm.refl _⟩
  | trans _ _ ih ih' => exact ⟨ih.1.trans ih'.1, fun depth => (ih.2 depth).trans (ih'.2 depth)⟩
  | @members m m' ref plain hperm =>
    refine ⟨rfl, ?_⟩
    intro depth
    have hdata : (object ref plain m).isData = (object ref plain m').isData := by
      rw [Bool.eq_iff_iff, isData_object, isData_object]
      simp only [hperm.mem_iff]
    have htext : (object ref plain m).ownText = (object ref plain m').ownText :=
      (hperm.map _).sum_nat
    have hnode : profile (object ref plain m, depth) = profile (object ref plain m', depth) := by
      unfold profile
      rw [hdata, htext]
      rfl
    rw [profiles_eq, profiles_eq, hnode]
    exact ((hperm.map (·.2)).flatMap_right _).cons _
  | @member a b ref plain before after key _ ih =>
    refine ⟨rfl, ?_⟩
    intro depth
    have hdata : (object ref plain (before ++ (key, a) :: after)).isData =
        (object ref plain (before ++ (key, b) :: after)).isData := by
      rw [Bool.eq_iff_iff, isData_object, isData_object]
      simp only [List.forall_mem_append, List.forall_mem_cons, ih.1]
    have htext : (object ref plain (before ++ (key, a) :: after)).ownText =
        (object ref plain (before ++ (key, b) :: after)).ownText := by
      unfold ownText
      simp only [List.map_append, List.map_cons]
    apply profiles_perm _ _ _ (ih.2 (depth + 1))
    · exact before.map (·.2)
    · exact after.map (·.2)
    · rw [children, List.map_append, List.map_cons]
    · rw [children, List.map_append, List.map_cons]
    · unfold profile
      rw [hdata, htext]
      rfl
  | @item a b ref ownKeys plain before after _ ih =>
    refine ⟨rfl, ?_⟩
    intro depth
    have hdata : (array ref plain ownKeys (before ++ a :: after)).isData =
        (array ref plain ownKeys (before ++ b :: after)).isData := by
      rw [Bool.eq_iff_iff, isData_array, isData_array]
      simp only [List.any_append, List.any_cons, List.length_append, List.length_cons, ih.1]
    apply profiles_perm rfl rfl _ (ih.2 (depth + 1))
    unfold profile
    rw [hdata]
    rfl

lemma isJsonTree_iff {value : WireValue} :
    value.IsJsonTree ↔ (∀ p ∈ value.profiles 0, p.data = true) ∧
      ((value.profiles 0).filterMap Profile.ref).Nodup := by
  unfold profiles
  rw [List.forall_mem_map, List.filterMap_map]
  constructor
  · intro h
    exact ⟨h.data, h.tree⟩
  · intro ⟨hdata, htree⟩
    exact ⟨hdata, htree⟩

lemma bounded_iff {value : WireValue} :
    value.Bounded ↔ (value.profiles 0).length ≤ maxV2WireJsonNodes ∧
      (∀ p ∈ value.profiles 0, p.depth ≤ maxV2WireJsonDepth ∧ p.finite = true) ∧
      ((value.profiles 0).map Profile.text).sum ≤ maxV2WireJsonTextCodeUnits := by
  unfold profiles
  rw [List.forall_mem_map, List.map_map, List.length_map]
  constructor
  · intro h
    exact ⟨h.nodes, fun node hnode => ⟨h.depth node hnode, h.finite node hnode⟩, h.text⟩
  · intro ⟨hnodes, heach, htext⟩
    exact ⟨hnodes, fun node hnode => (heach node hnode).1, fun node hnode => (heach node hnode).2,
      htext⟩

lemma Reordered.isJsonTree {v w : WireValue} (h : Reordered v w) (hv : v.IsJsonTree) :
    w.IsJsonTree := by
  have hperm := h.profiles.2 0
  rw [isJsonTree_iff] at hv ⊢
  constructor
  · exact fun p hp => hv.1 p (hperm.mem_iff.mpr hp)
  · exact (hperm.filterMap _).nodup_iff.mp hv.2

lemma Reordered.bounded_iff {v w : WireValue} (h : Reordered v w) : v.Bounded ↔ w.Bounded := by
  have hperm := h.profiles.2 0
  rw [WireValue.bounded_iff, WireValue.bounded_iff, hperm.length_eq,
    (hperm.map Profile.text).sum_nat]
  simp only [hperm.mem_iff]

end WireValue

/-! ## Exactness -/

/-- The inspection returns, and succeeds on the bounded JSON trees alone. -/
theorem inspectV2WireJsonValue_spec (value : WireValue) :
    (inspectV2WireJsonValue value = some (.ok ()) ↔ value.IsJsonTree ∧ value.Bounded) ∧
      inspectV2WireJsonValue value ≠ none := by
  have hspec := @inspectLoop_spec (maxV2WireJsonNodes + 1) ⟨[(value, 0)], [], 0, 0⟩ (Nat.zero_le _)
    (by dsimp only; omega) (Nat.zero_le _) List.nodup_nil
  refine ⟨hspec.1.trans ?_, hspec.2⟩
  have hpending : pending [(value, 0)] = value.visits 0 := by
    unfold pending
    rw [List.flatMap_singleton]
  constructor
  · intro ⟨hnodes, heach, htext, htree⟩
    rw [hpending] at hnodes heach htext htree
    rw [List.append_nil] at htree
    rw [Nat.zero_add] at hnodes htext
    exact ⟨⟨fun node hnode => (heach node hnode).2.1, htree⟩, ⟨hnodes,
      fun node hnode => (heach node hnode).1, fun node hnode => (heach node hnode).2.2, htext⟩⟩
  · intro ⟨htree, hbounded⟩
    constructor
    · rw [hpending, Nat.zero_add]
      exact hbounded.nodes
    · rw [hpending]
      exact fun node hnode => ⟨hbounded.depth node hnode, htree.data node hnode,
        hbounded.finite node hnode⟩
    · rw [hpending, Nat.zero_add]
      exact hbounded.text
    · rw [hpending, List.append_nil]
      exact htree.tree

/-- A JSON tree succeeds exactly when it is within the limits, in whatever order its members
appear. -/
theorem inspect_success_iff {value : WireValue} (h : value.IsJsonTree) :
    (inspectV2WireJsonValue value = some (.ok ()) ↔ value.Bounded) ∧
      ∀ swapped, value.Reordered swapped → (inspectV2WireJsonValue swapped = some (.ok ()) ↔
        inspectV2WireJsonValue value = some (.ok ())) := by
  have hiff : ∀ value : WireValue, value.IsJsonTree →
      (inspectV2WireJsonValue value = some (.ok ()) ↔ value.Bounded) := by
    intro value htree
    rw [(inspectV2WireJsonValue_spec value).1]
    exact and_iff_right htree
  refine ⟨hiff value h, ?_⟩
  intro swapped hswapped
  rw [hiff value h, hiff swapped (hswapped.isJsonTree h), hswapped.bounded_iff]

/-- `{"a": [1], "b": "x"}`. -/
def sampleWire : WireValue :=
  .object 0 true [(some (js "a"), .array 1 true 2 [.number (some (Js.Num.ofNat 1))]),
    (some (js "b"), .str (js "x"))]

theorem inspect_success_iff_sample :
    sampleWire.IsJsonTree ∧
      (inspectV2WireJsonValue sampleWire = some (.ok ()) ↔ sampleWire.Bounded) := by
  have htree : sampleWire.IsJsonTree := ⟨by decide, by decide⟩
  exact ⟨htree, (inspect_success_iff htree).1⟩

end CodexRouter.Adapter
