/-!
# Trees of nodes

A document is a tree of nodes. Each node carries its serial number: nodes are numbered in the order
in which they were created, which need not be the order of the tree.
-/
namespace WebExtract.Dom

/-- The vocabulary that an element belongs to. -/
inductive Vocabulary
  | html | svg | mathml
  deriving DecidableEq, Repr

/-- The namespace of an attribute. -/
inductive AttributeSpace
  | none | xlink | xml | xmlns
  deriving DecidableEq, Repr

structure Attribute where
  space : AttributeSpace
  name : String
  value : String
  deriving DecidableEq, Repr

structure Element where
  vocabulary : Vocabulary
  name : String
  attributes : List Attribute
  deriving DecidableEq, Repr

/-- The value of the attribute `name` that is in no namespace. -/
def Element.attribute? (e : Element) (name : String) : Option String :=
  (e.attributes.find? fun a => a.space = .none ∧ a.name = name).map (·.value)

/-- What a node is. A fragment holds the contents of a template element. -/
inductive Content
  | document
  | doctype
  | fragment
  | element (e : Element)
  | text (s : String)
  | comment (s : String)
  deriving DecidableEq, Repr

inductive Tree
  | node (serial : Nat) (content : Content) (children : List Tree)

namespace Tree

def serial : Tree → Nat
  | .node n _ _ => n

def content : Tree → Content
  | .node _ c _ => c

def children : Tree → List Tree
  | .node _ _ ts => ts

def element? (t : Tree) : Option Element :=
  match t.content with
  | .element e => some e
  | _ => none

def isElement (t : Tree) : Bool := t.element?.isSome

def isText (t : Tree) : Bool :=
  match t.content with
  | .text _ => true
  | _ => false

def isDocument (t : Tree) : Bool := t.content = .document

mutual

/-- The texts of a node and of what is below it, one after the other in tree order. -/
def text : Tree → List Char
  | .node _ (.text s) ts => s.toList ++ texts ts
  | .node _ _ ts => texts ts

def texts : List Tree → List Char
  | [] => []
  | t :: ts => t.text ++ texts ts

end

theorem texts_children_isSuffix (t : Tree) : texts t.children <:+ t.text := by
  obtain ⟨n, c, ts⟩ := t
  cases c with
  | text s => exact List.suffix_append s.toList (texts ts)
  | document | doctype | fragment | element _ | comment _ => exact List.suffix_refl (texts ts)

end Tree

end WebExtract.Dom
