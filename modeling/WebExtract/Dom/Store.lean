import WebExtract.Dom.Tree

/-!
# Nodes under construction

While a page is read, nodes are created, appended, moved and detached by number. A node's number is
its position in the order of creation. `Store.trees` gives the result as trees: first the
document's, then one for each node that has no parent.
-/
namespace WebExtract.Dom

abbrev NodeId := Nat

structure Record where
  content : Content
  parent : Option NodeId
  children : Array NodeId

structure Store where
  nodes : Array Record

namespace Store

/-- The node that every store begins with. -/
def documentId : NodeId := 0

def empty : Store := ⟨#[⟨.document, none, #[]⟩]⟩

def content (s : Store) (n : NodeId) : Content :=
  match s.nodes[n]? with
  | some r => r.content
  | none => .fragment

def parent? (s : Store) (n : NodeId) : Option NodeId := s.nodes[n]?.bind (·.parent)

def children (s : Store) (n : NodeId) : Array NodeId :=
  match s.nodes[n]? with
  | some r => r.children
  | none => #[]

def element? (s : Store) (n : NodeId) : Option Element :=
  match s.content n with
  | .element e => some e
  | _ => none

/-- A new node without a parent. -/
def create (s : Store) (c : Content) : NodeId × Store :=
  (s.nodes.size, ⟨s.nodes.push ⟨c, none, #[]⟩⟩)

def update (s : Store) (n : NodeId) (f : Record → Record) : Store := ⟨s.nodes.modify n f⟩

/-- Takes a node away from its parent. -/
def detach (s : Store) (n : NodeId) : Store :=
  match s.parent? n with
  | none => s
  | some p =>
    (s.update p fun r => { r with children := r.children.filter (· ≠ n) }).update n
      fun r => { r with parent := none }

/-- Makes `n` the last child of `p`. -/
def append (s : Store) (p n : NodeId) : Store :=
  ((s.detach n).update p fun r => { r with children := r.children.push n }).update n
    fun r => { r with parent := some p }

/-- Puts `n` before its new sibling, which has a parent. -/
def insertBefore (s : Store) (sibling n : NodeId) : Store :=
  let s := s.detach n
  match s.parent? sibling with
  | none => s
  | some p =>
    let i := ((s.children p).idxOf? sibling).getD 0
    (s.update p fun r => { r with children := r.children.insertIdxIfInBounds i n }).update n
      fun r => { r with parent := some p }

/-- Adds to a text node; false for any other node. -/
def extendText (s : Store) (n : NodeId) (text : String) : Option Store :=
  match s.content n with
  | .text t => some (s.update n fun r => { r with content := .text (t ++ text) })
  | _ => none

/-- Adds a text at the end of `p`, as part of a text node that is there already. -/
def appendText (s : Store) (p : NodeId) (text : String) : Store :=
  match (s.children p).back?.bind (s.extendText · text) with
  | some s => s
  | none =>
    let (n, s) := s.create (.text text)
    s.append p n

/-- Adds a text before a sibling, as part of a text node that is there already. -/
def insertTextBefore (s : Store) (sibling : NodeId) (text : String) : Store :=
  match s.parent? sibling with
  | none => s
  | some p =>
    let siblings := s.children p
    let i := (siblings.idxOf? sibling).getD 0
    let previous := if i = 0 then none else siblings[i - 1]?
    match previous.bind (s.extendText · text) with
    | some s => s
    | none =>
      let (n, s) := s.create (.text text)
      s.insertBefore sibling n

/-- Moves all children of `source` to the end of `target`. -/
def moveChildren (s : Store) (source target : NodeId) : Store :=
  (s.children source).foldl (fun s n => s.append target n) s

/-- The tree at `n`, down to `depth` levels below it. -/
def tree (s : Store) : (depth : Nat) → NodeId → Tree
  | 0, n => .node n (s.content n) []
  | depth + 1, n => .node n (s.content n) ((s.children n).toList.map (s.tree depth))

/-- The document's tree and the trees of all other nodes without a parent. No tree is deeper than
there are nodes. -/
def trees (s : Store) : Tree × List Tree :=
  let roots := (List.range s.nodes.size).filter fun n =>
    n ≠ documentId ∧ (s.parent? n).isNone
  (s.tree s.nodes.size documentId, roots.map (s.tree s.nodes.size))

end Store

end WebExtract.Dom
