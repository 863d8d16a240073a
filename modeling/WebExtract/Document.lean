import WebExtract.Css.Match
import WebExtract.Css.Parser
import WebExtract.Html.Page
import WebExtract.Logged
import WebExtract.Text.Blank

/-!
# Documents and queries

A document is the tree of a page, with the trees that were taken out of it while it was read. A
query looks for the elements that satisfy a selector, in the whole document or below one element.

* Below an element, matches come in tree order.
* In the whole document they come in the order in which they were created. An element without a
  parent is left out, but what is below it is not.
* A selector that cannot be read matches nothing, and is reported.
-/
namespace WebExtract

open Dom

/-- mirrors document:20-22 (`Document`) -/
structure Document where
  tree : Tree
  /-- The trees that were taken out. -/
  detached : List Tree

/-- Where selectors are evaluated.
mirrors document:13-16 (`Context`) -/
inductive Context
  | document
  | node (element : Place)

/-- The text of an element and all below it, without blanks at its ends.
mirrors document:80-82 (`text_of`) -/
def textOf (p : Place) : String := String.ofList (Text.trim p.tree.text)

namespace Document

/-- mirrors document:25-29 (`Document::parse`) -/
def parse (page : String) : Document :=
  let (tree, detached) := Html.trees page
  ⟨tree, detached⟩

/-- The place of the document node. -/
def root (d : Document) : Place := .root 0 d.tree

/-- The places of trees from number `i` on. -/
def placesOf (i : Nat) : List Tree → List Place
  | [] => []
  | t :: ts => (Place.root i t).subtree ++ placesOf (i + 1) ts

/-- All places, in the order of the trees. -/
def places (d : Document) : List Place := placesOf 0 (d.tree :: d.detached)

def insertByCreation (p : Place) : List Place → List Place
  | [] => [p]
  | q :: qs => if p.serial ≤ q.serial then p :: q :: qs else q :: insertByCreation p qs

/-- The same places in the order of creation. -/
def byCreation (ps : List Place) : List Place := ps.foldr insertByCreation []

/-- The places that satisfy a selector.
mirrors document:44-47 (`Document::query`, a selector that could be read) -/
def select (d : Document) (s : Css.Selector) : Context → List Place
  | .document =>
    byCreation (d.places.filter fun p => p.parent?.isSome && s.Matches none p)
  | .node e => e.descendants.filter (s.Matches (some e))

/-- The places that satisfy the selector that a text describes. -/
def find (d : Document) (selector : String) (c : Context) : List Place :=
  match Css.Selector.parse? selector with
  | none => []
  | some s => d.select s c

/-- The elements that a selector matches. What is wrong with a selector that cannot be read is not
known here (`Event.unreadableSelector`).
mirrors document:35-48 (`Document::query`) -/
def query (d : Document) (selector : String) (c : Context) : Logged (List Place) :=
  match Css.Selector.parse? selector with
  | none => do
    Logged.emit (.unreadableSelector selector)
    return []
  | some s => return d.select s c

@[simp] theorem value_query (d : Document) (selector : String) (c : Context) :
    (d.query selector c).value = d.find selector c := by
  unfold query find
  cases Css.Selector.parse? selector <;> rfl

/-- The text of the first match.
mirrors document:51-53 (`Document::first_text`) -/
def firstText (d : Document) (selector : String) (c : Context) : Logged (Option String) := do
  return (← d.query selector c).head?.map textOf

/-- The matches of `selector` that lie inside a match of `scope`. The selector is not looked at if
there is no such match. -/
def matchesWithin (d : Document) (selector scope : String) (c : Context) :
    Logged (List Place) := do
  let scopes ← d.query scope c
  if scopes.isEmpty then return []
  let found ← d.query selector c
  return found.filter fun p => scopes.any p.isBelow

/-- The texts of those matches.
mirrors document:60-76 (`Document::texts_within`) -/
def textsWithin (d : Document) (selector scope : String) (c : Context) :
    Logged (List String) := do
  return (← d.matchesWithin selector scope c).map textOf

end Document

end WebExtract
