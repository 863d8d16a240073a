import WebExtract.Dom.Tree

/-!
# Places in a tree

A place is a node together with the way up to the root: at each step the parent's place and the
siblings on both sides. Two nodes are the same if their places are, however alike their trees may
be. `Place.subtree` lists the places of a tree in tree order: each node before what is below it.
-/
namespace WebExtract.Dom

/-- The siblings before a place are listed from the nearest one outwards. -/
inductive Place
  | root (index : Nat) (tree : Tree)
  | child (parent : Place) (before : List Tree) (tree : Tree) (after : List Tree)

namespace Place

def tree : Place → Tree
  | .root _ t => t
  | .child _ _ t _ => t

def parent? : Place → Option Place
  | .root _ _ => none
  | .child p _ _ _ => some p

def serial (p : Place) : Nat := p.tree.serial

def element? (p : Place) : Option Element := p.tree.element?

def isElement (p : Place) : Bool := p.tree.isElement

/-- The places above, the nearest first. -/
def ancestors : Place → List Place
  | .root _ _ => []
  | .child p _ _ _ => p :: p.ancestors

/-- The number of siblings before the node, then the same for each ancestor, then the number of
the root. -/
def address : Place → List Nat
  | .root i _ => [i]
  | .child p before _ _ => before.length :: p.address

/-- Whether `q` is a proper ancestor of `p`. -/
def isBelow (p q : Place) : Bool :=
  match p.address with
  | [] => false
  | _ :: up => q.address.isSuffixOf up

/-- The places of the trees `ts` below `parent`, after the trees `before`. -/
def placesFrom (parent : Place) (before : List Tree) : List Tree → List Place
  | [] => []
  | t :: ts => .child parent before t ts :: placesFrom parent (t :: before) ts

/-- The siblings after a place. -/
def following : Place → List Place
  | .root _ _ => []
  | .child p before t after => placesFrom p (t :: before) after

/-- The places of the trees `before` below `parent`, which stand before the trees `after`; the
nearest comes first. -/
def placesBefore (parent : Place) (after : List Tree) : (before : List Tree) → List Place
  | [] => []
  | t :: before => .child parent before t after :: placesBefore parent (t :: after) before

/-- The siblings before a place, the nearest first. -/
def preceding : Place → List Place
  | .root _ _ => []
  | .child p before t after => placesBefore p (t :: after) before

/-- The elements above a place, the nearest first, as far as only elements lie between. -/
def elementAncestors : Place → List Place
  | .root _ _ => []
  | .child p _ _ _ => if p.isElement then p :: p.elementAncestors else []

end Place

mutual

/-- The place of a tree and all places below it, in tree order. -/
def Tree.walk (here : Place) : Tree → List Place
  | .node _ _ ts => here :: Tree.walkAll here [] ts

def Tree.walkAll (parent : Place) (before : List Tree) : List Tree → List Place
  | [] => []
  | t :: ts => t.walk (.child parent before t ts) ++ Tree.walkAll parent (t :: before) ts

end

mutual

/-- The elements in a tree that can be reached from its element through elements alone. -/
def Tree.elementWalk (here : Place) : Tree → List Place
  | .node _ (.element _) ts => here :: Tree.elementWalkAll here [] ts
  | .node _ _ _ => []

def Tree.elementWalkAll (parent : Place) (before : List Tree) : List Tree → List Place
  | [] => []
  | t :: ts =>
    t.elementWalk (.child parent before t ts) ++ Tree.elementWalkAll parent (t :: before) ts

end

namespace Place

/-- The place and all places below it, in tree order. -/
def subtree (p : Place) : List Place := p.tree.walk p

/-- The places below `p`, in tree order. -/
def descendants (p : Place) : List Place := Tree.walkAll p [] p.tree.children

/-- The elements below `p` with only elements between, in tree order. -/
def reachableElements (p : Place) : List Place := Tree.elementWalkAll p [] p.tree.children

end Place

end WebExtract.Dom
