import Nurture.Funnel.Node

/-!
  Funnels

  A funnel is a graph of nodes that is entered at its start node when its
  trigger fires. `Funnel.graphFault?` finds what is wrong with the graph, and
  `Funnel.WellFormed` says that nothing is: identifiers are unique, and the
  start and every reference name a node.
-/

namespace Nurture

structure Funnel where
  id : String
  name : String
  trigger : String
  isActive : Bool
  nodes : List Node
  start : Option String
  deriving Repr

/-- What is wrong with a graph. -/
inductive GraphFault where
  | duplicateIds
  | unknownStart (id : String)
  | unknownReference (node id : String)
  deriving DecidableEq, Repr

def GraphFault.message : GraphFault → String
  | duplicateIds => "Node ids must be unique within a funnel"
  | unknownStart id => "start_node_id references unknown node: " ++ id
  | unknownReference node id => "Node " ++ node ++ " references unknown node: " ++ id

/-- The first node with the identifier. -/
def findNode (nodes : List Node) (id : String) : Option Node := nodes.find? fun n => n.id == id

namespace Graph

def ids (nodes : List Node) : List String := nodes.map (·.id)

/-- The first reference of a node that names none of the given identifiers. -/
def brokenReference? (known : List String) (nodes : List Node) : Option GraphFault :=
  nodes.findSome? fun n =>
    (n.successors.find? fun r => !known.contains r).map (.unknownReference n.id)

/-- The first fault of a graph: in its identifiers, its start, its references. -/
def fault? (nodes : List Node) (start : Option String) : Option GraphFault :=
  let known := ids nodes
  if !decide known.Nodup then some .duplicateIds
  else
    match start with
    | some id => if known.contains id then brokenReference? known nodes else some (.unknownStart id)
    | none => brokenReference? known nodes

/-- Identifiers are unique, and start and references name nodes. -/
structure WellFormed (nodes : List Node) (start : Option String) : Prop where
  nodup : (ids nodes).Nodup
  start_mem : ∀ id, start = some id → id ∈ ids nodes
  reference_mem : ∀ n ∈ nodes, ∀ r ∈ n.successors, r ∈ ids nodes

theorem brokenReference?_eq_none_iff {known : List String} {nodes : List Node} :
    brokenReference? known nodes = none ↔ ∀ n ∈ nodes, ∀ r ∈ n.successors, r ∈ known := by
  simp [brokenReference?]

/-- Nothing is found exactly in well-formed graphs. -/
theorem fault?_eq_none_iff {nodes : List Node} {start : Option String} :
    fault? nodes start = none ↔ WellFormed nodes start := by
  unfold fault?
  by_cases hd : (ids nodes).Nodup
  · cases start with
    | none =>
      simp only [hd, decide_true, Bool.not_true, Bool.false_eq_true, if_false,
        brokenReference?_eq_none_iff]
      exact ⟨fun h => ⟨hd, by simp, h⟩, fun h => h.reference_mem⟩
    | some id =>
      by_cases hs : id ∈ ids nodes
      · simp only [hd, decide_true, Bool.not_true, Bool.false_eq_true, if_false,
          List.contains_iff_mem, hs, if_true, brokenReference?_eq_none_iff]
        exact ⟨fun h => ⟨hd, by simpa using hs, h⟩, fun h => h.reference_mem⟩
      · simp only [hd, decide_true, Bool.not_true, Bool.false_eq_true, if_false,
          List.contains_iff_mem, hs, reduceCtorEq, false_iff]
        exact fun h => hs (h.start_mem id rfl)
  · simp only [hd, decide_false, Bool.not_false, if_true, reduceCtorEq, false_iff]
    exact fun h => hd h.nodup

end Graph

namespace Funnel

/-- The node with the identifier. -/
def node? (f : Funnel) (id : String) : Option Node := findNode f.nodes id

def graphFault? (f : Funnel) : Option GraphFault := Graph.fault? f.nodes f.start

def WellFormed (f : Funnel) : Prop := Graph.WellFormed f.nodes f.start

end Funnel

theorem findNode_id {nodes : List Node} {id : String} {n : Node} (h : findNode nodes id = some n) :
    n.id = id := by
  have := List.find?_some h
  simpa using this

theorem mem_of_findNode {nodes : List Node} {id : String} {n : Node}
    (h : findNode nodes id = some n) : n ∈ nodes :=
  List.mem_of_find?_eq_some h

theorem findNode_isSome_iff {nodes : List Node} {id : String} :
    (findNode nodes id).isSome ↔ id ∈ Graph.ids nodes := by
  simp [findNode, Graph.ids]

end Nurture
