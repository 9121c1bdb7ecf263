import ProcessDiagram.Graph.Style

/-! Directed graphs with nested subgraphs, and the queries that walk them: a subgraph's own nodes and
edges come before those of its children. -/
namespace ProcessDiagram

structure Node where
  id : String
  label : String
  kind : NodeKind
  style : NodeStyle
deriving DecidableEq, Repr

def Node.ofKind (id label : String) (kind : NodeKind) : Node := ⟨id, label, kind, kind.style⟩

/-- An edge whose `constraint` is false takes no part in the ranking of nodes. -/
structure Edge where
  source : String
  target : String
  style : EdgeStyle
  constraint : Bool
  arrowhead : Bool
  penWidth : Option Decimal.Single
deriving DecidableEq, Repr

namespace Edge

def flow (source target : String) : Edge := ⟨source, target, .solid, true, true, some oneAndHalf⟩

def note (source target : String) : Edge := ⟨source, target, .dashed, true, false, none⟩

def invisible (source target : String) : Edge := ⟨source, target, .invisible, true, true, none⟩

def nonConstraining (e : Edge) : Edge := { e with constraint := false }

/-- Invisible edges serve the layout and carry no flow. -/
def isLayoutOnly (e : Edge) : Bool := e.style == .invisible

end Edge

/-- Named texts in the order of first insertion. -/
abbrev Attributes := List (String × String)

namespace Attributes

def get? (attrs : Attributes) (key : String) : Option String :=
  (attrs.find? (·.1 = key)).map (·.2)

/-- A key that is present keeps its position and takes the new value. -/
def insert (key value : String) : Attributes → Attributes
  | [] => [(key, value)]
  | (k, v) :: rest => if k = key then (key, value) :: rest else (k, v) :: insert key value rest

end Attributes

/-- A group of nodes, edges and subgraphs; members are mentions of nodes that stand elsewhere. -/
inductive Subgraph where
  | mk (name : Option String) (attrs : Attributes) (nodes : List Node) (edges : List Edge)
      (members : List String) (children : List Subgraph)
deriving Repr

namespace Subgraph

def name : Subgraph → Option String | mk n _ _ _ _ _ => n
def attrs : Subgraph → Attributes | mk _ a _ _ _ _ => a
def nodes : Subgraph → List Node | mk _ _ ns _ _ _ => ns
def edges : Subgraph → List Edge | mk _ _ _ es _ _ => es
def members : Subgraph → List String | mk _ _ _ _ ms _ => ms
def children : Subgraph → List Subgraph | mk _ _ _ _ _ cs => cs

def empty : Subgraph := mk none [] [] [] [] []

def named (name : String) : Subgraph := mk (some name) [] [] [] [] []

instance : Inhabited Subgraph := ⟨empty⟩

def setAttr (key value : String) : Subgraph → Subgraph
  | mk n a ns es ms cs => mk n (a.insert key value) ns es ms cs

def addNode (node : Node) : Subgraph → Subgraph
  | mk n a ns es ms cs => mk n a (ns ++ [node]) es ms cs

def addEdge (edge : Edge) : Subgraph → Subgraph
  | mk n a ns es ms cs => mk n a ns (es ++ [edge]) ms cs

def addMember (id : String) : Subgraph → Subgraph
  | mk n a ns es ms cs => mk n a ns es (ms ++ [id]) cs

def addChild (s child : Subgraph) : Subgraph :=
  mk s.name s.attrs s.nodes s.edges s.members (s.children ++ [child])

@[simp] theorem nodes_addNode (s : Subgraph) (n : Node) : (s.addNode n).nodes = s.nodes ++ [n] := by
  cases s; rfl

@[simp] theorem edges_addNode (s : Subgraph) (n : Node) : (s.addNode n).edges = s.edges := by
  cases s; rfl

theorem foldl_addEdge (es : List Edge) (s : Subgraph) : es.foldl (fun s e => s.addEdge e) s =
    .mk s.name s.attrs s.nodes (s.edges ++ es) s.members s.children := by
  induction es generalizing s with
  | nil => cases s; simp [name, attrs, nodes, edges, members, children]
  | cons e es ih =>
    rw [List.foldl_cons, ih]
    cases s
    simp [addEdge, name, attrs, nodes, edges, members, children]

theorem addEdge_addNode (s : Subgraph) (e : Edge) (n : Node) :
    (s.addEdge e).addNode n = (s.addNode n).addEdge e := by
  cases s; rfl

mutual

def allNodes : Subgraph → List Node
  | mk _ _ ns _ _ cs => ns ++ nodesOf cs

def nodesOf : List Subgraph → List Node
  | [] => []
  | s :: rest => s.allNodes ++ nodesOf rest

end

mutual

def allEdges : Subgraph → List Edge
  | mk _ _ _ es _ cs => es ++ edgesOf cs

def edgesOf : List Subgraph → List Edge
  | [] => []
  | s :: rest => s.allEdges ++ edgesOf rest

end

mutual

/-- The first subgraph of the name, a parent before its children. -/
def find? (name : String) : Subgraph → Option Subgraph
  | mk n a ns es ms cs =>
    if n = some name then some (mk n a ns es ms cs) else findOf? name cs

def findOf? (name : String) : List Subgraph → Option Subgraph
  | [] => none
  | s :: rest => (s.find? name).or (findOf? name rest)

end

def at? : List Nat → Subgraph → Option Subgraph
  | [], s => some s
  | i :: path, s => s.children[i]?.bind (at? path)

/-- Changes the subgraph at a path; a path that leads nowhere changes nothing. -/
def modifyAt (f : Subgraph → Subgraph) : List Nat → Subgraph → Subgraph
  | [], s => f s
  | i :: path, mk n a ns es ms cs => mk n a ns es ms (cs.modify i (modifyAt f path))

end Subgraph

structure Graph where
  comment : String
  attrs : Attributes
  nodeDefaults : Attributes
  edgeDefaults : Attributes
  root : Subgraph
deriving Inhabited

namespace Graph

def empty (comment : String) : Graph := ⟨comment, [], [], [], .empty⟩

def nodes (g : Graph) : List Node := g.root.allNodes
def edges (g : Graph) : List Edge := g.root.allEdges
def node? (g : Graph) (id : String) : Option Node := g.nodes.find? (·.id = id)
def nodesOfKind (g : Graph) (kind : NodeKind) : List Node := g.nodes.filter (·.kind = kind)
def edgesFrom (g : Graph) (id : String) : List Edge := g.edges.filter (·.source = id)
def edgesTo (g : Graph) (id : String) : List Edge := g.edges.filter (·.target = id)
def hasEdge (g : Graph) (source target : String) : Bool :=
  g.edges.any fun e => e.source = source && e.target = target
def subgraph? (g : Graph) (name : String) : Option Subgraph := g.root.find? name

end Graph

end ProcessDiagram
