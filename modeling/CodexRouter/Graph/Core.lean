import CodexRouter.Js.Table
import CodexRouter.Kernel.Records

/-!
# Task graph

Nodes and edges belong to branches. A checkpoint is a node whose data has a snapshot of the graph,
which is parsed again when the graph is rolled back to it. Every operation is given the time.
-/

open Js CodexRouter.Kernel

namespace CodexRouter.Graph

/-! ## Data -/

inductive NodeType where
  | root | subtask | checkpoint | branch
  deriving DecidableEq

inductive NodeStatus where
  | pending | inProgress | completed | failed | blocked
  deriving DecidableEq

inductive EdgeType where
  | dependency | conflict | parentChild | sequential
  deriving DecidableEq

def NodeType.text : NodeType → Str
  | root => js "root"
  | subtask => js "subtask"
  | checkpoint => js "checkpoint"
  | branch => js "branch"

def NodeStatus.text : NodeStatus → Str
  | pending => js "pending"
  | inProgress => js "in_progress"
  | completed => js "completed"
  | failed => js "failed"
  | blocked => js "blocked"

def EdgeType.text : EdgeType → Str
  | dependency => js "dependency"
  | conflict => js "conflict"
  | parentChild => js "parent_child"
  | sequential => js "sequential"

structure BranchOwned where
  branchId : Str
  originBranchId : Str
  mergedFromBranchIds : List Str
  deriving DecidableEq

structure TaskGraphNode extends BranchOwned where
  nodeId : Str
  taskId : Str
  type : NodeType
  status : NodeStatus
  data : Option Record
  createdAt : Str
  updatedAt : Str
  deriving DecidableEq

structure TaskGraphEdge extends BranchOwned where
  edgeId : Str
  sourceNodeId : Str
  targetNodeId : Str
  type : EdgeType
  metadata : Option Record
  deriving DecidableEq

structure TaskGraph where
  graphId : Str
  rootTaskId : Str
  nodes : List TaskGraphNode
  edges : List TaskGraphEdge
  branches : List Str
  activeBranch : Str
  createdAt : Str
  updatedAt : Str
  deriving DecidableEq

structure TaskGraphDelta where
  graphId : Str
  checkpointId : Str
  branchId : Str
  nodes : List TaskGraphNode
  edges : List TaskGraphEdge
  activeBranch : Str
  rootTaskId : Str
  createdAt : Str
  deriving DecidableEq

/-! ## Schemas -/

def nodeTypeSchema : Schema NodeType :=
  .enum [.root, .subtask, .checkpoint, .branch] NodeType.text (by intro a; cases a <;> decide)

def nodeStatusSchema : Schema NodeStatus :=
  .enum [.pending, .inProgress, .completed, .failed, .blocked] NodeStatus.text
    (by intro a; cases a <;> decide)

def edgeTypeSchema : Schema EdgeType :=
  .enum [.dependency, .conflict, .parentChild, .sequential] EdgeType.text
    (by intro a; cases a <;> decide)

/-- `TaskGraphNodeSchema`. -/
def taskGraphNodeSchema : Schema TaskGraphNode :=
  .object
    ((Fields.cons (js "nodeId") (.required .nonEmptyString) <|
      .cons (js "taskId") (.required .nonEmptyString) <|
      .cons (js "type") (.required nodeTypeSchema) <|
      .cons (js "status") (.required nodeStatusSchema) <|
      .cons (js "data") (.optional .record) <|
      .cons (js "branchId") (.required .nonEmptyString) <|
      .cons (js "originBranchId") (.required .nonEmptyString) <|
      .cons (js "mergedFromBranchIds") (.required (.array .nonEmptyString)) <|
      .cons (js "createdAt") (.required .nonEmptyString) <|
      .cons (js "updatedAt") (.required .nonEmptyString) .nil).via
      { toFun := fun (nodeId, taskId, type, status, data, branchId, originBranchId,
          mergedFromBranchIds, createdAt, updatedAt, ()) =>
          { nodeId, taskId, type, status, data, branchId, originBranchId, mergedFromBranchIds,
            createdAt, updatedAt }
        invFun := fun node => (node.nodeId, node.taskId, node.type, node.status, node.data,
          node.branchId, node.originBranchId, node.mergedFromBranchIds, node.createdAt,
          node.updatedAt, ())
        left_inv := fun _ => rfl
        right_inv := fun _ => rfl })
    (by decide)

/-- `TaskGraphEdgeSchema`. -/
def taskGraphEdgeSchema : Schema TaskGraphEdge :=
  .object
    ((Fields.cons (js "edgeId") (.required .nonEmptyString) <|
      .cons (js "sourceNodeId") (.required .nonEmptyString) <|
      .cons (js "targetNodeId") (.required .nonEmptyString) <|
      .cons (js "type") (.required edgeTypeSchema) <|
      .cons (js "branchId") (.required .nonEmptyString) <|
      .cons (js "originBranchId") (.required .nonEmptyString) <|
      .cons (js "mergedFromBranchIds") (.required (.array .nonEmptyString)) <|
      .cons (js "metadata") (.optional .record) .nil).via
      { toFun := fun (edgeId, sourceNodeId, targetNodeId, type, branchId, originBranchId,
          mergedFromBranchIds, metadata, ()) =>
          { edgeId, sourceNodeId, targetNodeId, type, branchId, originBranchId,
            mergedFromBranchIds, metadata }
        invFun := fun edge => (edge.edgeId, edge.sourceNodeId, edge.targetNodeId, edge.type,
          edge.branchId, edge.originBranchId, edge.mergedFromBranchIds, edge.metadata, ())
        left_inv := fun _ => rfl
        right_inv := fun _ => rfl })
    (by decide)

/-- `TaskGraphDeltaSchema`. -/
def taskGraphDeltaSchema : Schema TaskGraphDelta :=
  .object
    ((Fields.cons (js "schemaVersion") (versionSlot "task-graph-delta.v2") <|
      .cons (js "graphId") (.required .nonEmptyString) <|
      .cons (js "checkpointId") (.required .nonEmptyString) <|
      .cons (js "branchId") (.required .nonEmptyString) <|
      .cons (js "nodes") (.required (.array taskGraphNodeSchema)) <|
      .cons (js "edges") (.required (.array taskGraphEdgeSchema)) <|
      .cons (js "activeBranch") (.required .nonEmptyString) <|
      .cons (js "rootTaskId") (.required .nonEmptyString) <|
      .cons (js "createdAt") (.required .nonEmptyString) .nil).via
      { toFun := fun (_, graphId, checkpointId, branchId, nodes, edges, activeBranch, rootTaskId,
          createdAt, ()) =>
          ⟨graphId, checkpointId, branchId, nodes, edges, activeBranch, rootTaskId, createdAt⟩
        invFun := fun delta => ((), delta.graphId, delta.checkpointId, delta.branchId, delta.nodes,
          delta.edges, delta.activeBranch, delta.rootTaskId, delta.createdAt, ())
        left_inv := fun _ => rfl
        right_inv := fun _ => rfl })
    (by decide)

/-! ## Branch ownership -/

/-- What has an owner and a key. -/
class Owned (τ : Type) where
  owner : τ → BranchOwned
  own : BranchOwned → τ → τ
  itemKey : τ → Str

def edgeOwnedKey (edge : TaskGraphEdge) : Str :=
  edge.sourceNodeId ++ js "->" ++ edge.targetNodeId ++ js ":" ++ edge.type.text

instance : Owned TaskGraphNode where
  owner node := node.toBranchOwned
  own owner node := { node with toBranchOwned := owner }
  itemKey node := node.nodeId

instance : Owned TaskGraphEdge where
  owner edge := edge.toBranchOwned
  own owner edge := { edge with toBranchOwned := owner }
  itemKey edge := edgeOwnedKey edge

inductive MergeStrategy where
  | keepSource | keepTarget | union
  deriving DecidableEq

/-- The members of `BranchOwned` that an input may leave out. -/
structure BranchInput where
  branchId : Option Str
  originBranchId : Option Str
  mergedFromBranchIds : Option (List Str)

/-- Empty texts are left out. -/
def uniqueStrings (values : List Str) : List Str := distinct (values.filter fun value => value ≠ [])

def applyBranchOwnership (input : BranchInput) (defaultBranchId : Str) : BranchOwned :=
  let branchId := input.branchId.getD defaultBranchId
  { branchId
    originBranchId := input.originBranchId.getD branchId
    mergedFromBranchIds := uniqueStrings (input.mergedFromBranchIds.getD []) }

/-- A `Map` from a key to the items that have it, in the order of their first items. -/
def pushItem {τ : Type} (key : Str) (item : τ) : List (Str × List τ) → List (Str × List τ)
  | [] => [(key, [item])]
  | (k, group) :: groups =>
    if k = key then (k, group ++ [item]) :: groups else (k, group) :: pushItem key item groups

def groupByKey {τ : Type} (items : List τ) (getKey : τ → Str) : List (Str × List τ) :=
  items.foldl (fun groups item => pushItem (getKey item) item groups) []

section

variable {τ : Type} [Owned τ]

open Owned

def markMergedIntoTarget (item : τ) (targetBranchId sourceBranchId : Str)
    (extraMergedFromBranchIds : List Str) : τ :=
  own { owner item with
    branchId := targetBranchId
    mergedFromBranchIds := uniqueStrings ((owner item).mergedFromBranchIds
      ++ extraMergedFromBranchIds ++ [sourceBranchId]) } item

def collectMergedFrom (items : List τ) : List Str :=
  uniqueStrings (items.flatMap fun item => (owner item).mergedFromBranchIds)

/-- The items that one group leaves. -/
def mergeGroup (sourceBranchId targetBranchId : Str) (strategy : MergeStrategy) (group : List τ) :
    List τ :=
  let sourceItem := group.find? fun item => (owner item).branchId = sourceBranchId
  let targetItem := group.find? fun item => (owner item).branchId = targetBranchId
  let unrelatedItems := group.filter fun item =>
    (owner item).branchId ≠ sourceBranchId && (owner item).branchId ≠ targetBranchId
  unrelatedItems ++
    match sourceItem, targetItem with
    | some sourceItem, some targetItem =>
      if strategy = .keepSource then
        [markMergedIntoTarget sourceItem targetBranchId sourceBranchId
          (collectMergedFrom [targetItem])]
      else
        [markMergedIntoTarget targetItem targetBranchId sourceBranchId
          (collectMergedFrom [sourceItem])]
    | some sourceItem, none => [markMergedIntoTarget sourceItem targetBranchId sourceBranchId []]
    | none, some targetItem => [targetItem]
    | none, none => []

def mergeBranchOwnedItems (items : List τ) (sourceBranchId targetBranchId : Str)
    (strategy : MergeStrategy) : List τ :=
  (groupByKey items itemKey).flatMap fun e =>
    mergeGroup sourceBranchId targetBranchId strategy e.2

end

/-! ## Nodes, edges and branches -/

structure TaskGraphNodeInput extends BranchInput where
  nodeId : Str
  taskId : Str
  type : NodeType
  status : NodeStatus
  data : Option Record

structure TaskGraphEdgeInput extends BranchInput where
  sourceNodeId : Str
  targetNodeId : Str
  type : EdgeType
  metadata : Option Record

def addNodeToGraph (graph : TaskGraph) (node : TaskGraphNodeInput) (now : Str) : TaskGraph :=
  let newNode : TaskGraphNode :=
    { applyBranchOwnership node.toBranchInput graph.activeBranch with
      nodeId := node.nodeId, taskId := node.taskId, type := node.type, status := node.status,
      data := node.data, createdAt := now, updatedAt := now }
  { graph with nodes := graph.nodes ++ [newNode], updatedAt := now }

def updateNodeStatus (graph : TaskGraph) (nodeId : Str) (status : NodeStatus) (now : Str) :
    TaskGraph :=
  let activeBranchHasNode := graph.nodes.any fun n =>
    n.nodeId = nodeId && n.branchId = graph.activeBranch
  { graph with
    nodes := graph.nodes.map fun n =>
      if n.nodeId = nodeId && (!activeBranchHasNode || n.branchId = graph.activeBranch) then
        { n with status, updatedAt := now }
      else n
    updatedAt := now }

def addEdgeToGraph (graph : TaskGraph) (edge : TaskGraphEdgeInput) (now : Str) : TaskGraph :=
  let newEdge : TaskGraphEdge :=
    { applyBranchOwnership edge.toBranchInput graph.activeBranch with
      edgeId := js "edge:" ++ edge.sourceNodeId ++ js "->" ++ edge.targetNodeId ++ js ":" ++ now
      sourceNodeId := edge.sourceNodeId, targetNodeId := edge.targetNodeId, type := edge.type
      metadata := edge.metadata }
  { graph with edges := graph.edges ++ [newEdge], updatedAt := now }

def createBranch (graph : TaskGraph) (branchId : Str) (now : Str) : TaskGraph :=
  if branchId ∈ graph.branches then graph
  else { graph with
    branches := graph.branches ++ [branchId], activeBranch := branchId, updatedAt := now }

def switchBranch (graph : TaskGraph) (branchId : Str) (now : Str) : TaskGraph :=
  if branchId ∈ graph.branches then { graph with activeBranch := branchId, updatedAt := now }
  else graph

def mergeBranch (graph : TaskGraph) (sourceBranchId targetBranchId : Str)
    (strategy : MergeStrategy) (now : Str) : TaskGraph :=
  if sourceBranchId ∉ graph.branches then graph
  else if targetBranchId ∉ graph.branches then graph
  else if sourceBranchId = targetBranchId then graph
  else { graph with
    nodes := mergeBranchOwnedItems graph.nodes sourceBranchId targetBranchId strategy
    edges := mergeBranchOwnedItems graph.edges sourceBranchId targetBranchId strategy
    activeBranch := targetBranchId
    updatedAt := now }

/-! ## Checkpoints -/

def checkpointPrefix : Str := js "checkpoint:"

def checkpointNodeId (checkpointId : Str) : Str := checkpointPrefix ++ checkpointId

def getNode (graph : TaskGraph) (nodeId : Str) : Option TaskGraphNode :=
  graph.nodes.find? fun n => n.nodeId = nodeId

/-- The input of `parseTaskGraphDelta` is an object without `schemaVersion`. -/
def createGraphDelta (graph : TaskGraph) (checkpointId now : Str) : Result TaskGraphDelta :=
  let nodes := graph.nodes.filter fun n => n.nodeId ≠ checkpointNodeId checkpointId
  taskGraphDeltaSchema.parse (.obj
    [(js "graphId", .str graph.graphId),
      (js "checkpointId", .str checkpointId),
      (js "branchId", .str graph.activeBranch),
      (js "nodes", (Schema.array taskGraphNodeSchema).write nodes),
      (js "edges", (Schema.array taskGraphEdgeSchema).write graph.edges),
      (js "activeBranch", .str graph.activeBranch),
      (js "rootTaskId", .str graph.rootTaskId),
      (js "createdAt", .str now)])

def applyGraphDelta (graph : TaskGraph) (delta : TaskGraphDelta) (now : Str) : TaskGraph :=
  let deltaNodeIds := delta.nodes.map TaskGraphNode.nodeId
  let checkpointNodes := graph.nodes.filter fun n =>
    n.type = .checkpoint && n.nodeId ∉ deltaNodeIds
  { graph with
    nodes := delta.nodes ++ checkpointNodes
    edges := delta.edges
    activeBranch := delta.activeBranch
    updatedAt := now }

def recordCheckpointNode (graph : TaskGraph) (checkpointId now : Str) :
    Result (TaskGraph × TaskGraphDelta) := do
  let checkpointNode : TaskGraphNodeInput :=
    { nodeId := checkpointNodeId checkpointId, taskId := graph.rootTaskId, type := .checkpoint,
      status := .completed, data := none, branchId := graph.activeBranch,
      originBranchId := graph.activeBranch, mergedFromBranchIds := some [] }
  let updated := addNodeToGraph graph checkpointNode now
  let delta ← createGraphDelta updated checkpointId now
  return ({ updated with
    nodes := updated.nodes.map fun n =>
      if n.nodeId = checkpointNodeId checkpointId then
        { n with data := some [(js "delta", taskGraphDeltaSchema.write delta)] }
      else n }, delta)

/-- A falsy `delta` is no object, so it makes no difference that it is not even parsed. -/
def rollbackToCheckpoint (graph : TaskGraph) (checkpointId now : Str) : TaskGraph :=
  match getNode graph (checkpointNodeId checkpointId) with
  | none => graph
  | some checkpointNode =>
    match checkpointNode.data.bind fun data => Json.get? data (js "delta") with
    | none => graph
    | some rawDelta =>
      match taskGraphDeltaSchema.parse rawDelta with
      | .error _ => graph
      | .ok delta => applyGraphDelta graph delta now

end CodexRouter.Graph
