import WebExtract.Dom.Store
import WebExtract.Html.Vocabulary

/-!
# The state of tree construction

The tree built so far, the elements that are open, and what the rules have to remember from token
to token. Rules are state transformers, `Build α`.
-/
namespace WebExtract.Html

open WebExtract.Dom

/-- Which rules apply to the next token. -/
inductive Mode
  | initial | beforeHtml | beforeHead | inHead | afterHead | inBody | inTable | inCaption
  | inColumnGroup | inTableBody | inRow | inCell | inSelect | inSelectInTable | inTemplate
  | afterBody | inFrameset | afterFrameset | afterAfterBody | afterAfterFrameset
  deriving DecidableEq, Repr

/-- Whether a run of text is being read, after which the mode applies again. -/
inductive TextRun
  | none
  /-- The content of an element that holds nothing but text. -/
  | inElement
  /-- Text found in a table, the latest first. -/
  | inTable (found : List Token)

/-- A formatting element that goes on in later blocks if it is not closed, or a mark that
formatting does not reach across. -/
inductive Formatting
  | element (node : NodeId) (tag : Tag)
  | marker

structure Builder where
  store : Store
  mode : Mode
  textRun : TextRun
  /-- One mode for each open template, the innermost first. -/
  templateModes : List Mode
  oldRules : Bool
  /-- The open elements, the innermost first. -/
  stack : List NodeId
  /-- The latest first. -/
  formatting : List Formatting
  head : Option NodeId
  form : Option NodeId
  framesetAllowed : Bool
  /-- The next token loses a newline at its front. -/
  dropNewline : Bool
  /-- What is misplaced in a table goes before it. -/
  fostering : Bool
  /-- How the text that follows is to be read. -/
  reading : Reading

abbrev Build := StateM Builder

namespace Builder

def start : Builder :=
  ⟨.empty, .initial, .none, [], false, [], [], none, none, true, false, false, .markup⟩

def element? (b : Builder) (n : NodeId) : Option Element := b.store.element? n

/-- Whether `n` is an HTML element with one of the names. -/
def isAmong (b : Builder) (names : List String) (n : NodeId) : Bool :=
  (b.element? n).any fun e => e.vocabulary = .html && names.contains e.name

def isNamed (b : Builder) (name : String) (n : NodeId) : Bool :=
  (b.element? n).any fun e => e.vocabulary = .html && e.name = name

def currentIsNamed (b : Builder) (name : String) : Bool := b.stack.head?.any (b.isNamed name)

def currentIsAmong (b : Builder) (names : List String) : Bool :=
  b.stack.head?.any (b.isAmong names)

def hasOpen (b : Builder) (name : String) : Bool := b.stack.any (b.isNamed name)

/-! ## Scopes -/

/-- Whether an open element satisfies `p`, with none that satisfies `isEnd` above it. -/
def inScopeBy (isEnd p : NodeId → Bool) : List NodeId → Bool
  | [] => false
  | n :: ns => p n || (!isEnd n && inScopeBy isEnd p ns)

def endsDefaultScope (b : Builder) (n : NodeId) : Bool :=
  b.isAmong ["applet", "caption", "html", "table", "td", "th", "marquee", "object", "template"] n
    || (b.element? n).any fun e => isMathText e || isSvgHtml e

def inDefaultScope (b : Builder) (p : NodeId → Bool) : Bool :=
  inScopeBy b.endsDefaultScope p b.stack

def hasInScope (b : Builder) (name : String) : Bool := b.inDefaultScope (b.isNamed name)

def hasInButtonScope (b : Builder) (name : String) : Bool :=
  inScopeBy (fun n => b.endsDefaultScope n || b.isNamed "button" n) (b.isNamed name) b.stack

def hasInListScope (b : Builder) (name : String) : Bool :=
  inScopeBy (fun n => b.endsDefaultScope n || b.isAmong ["ol", "ul"] n) (b.isNamed name) b.stack

def hasAnyInTableScope (b : Builder) (names : List String) : Bool :=
  inScopeBy (b.isAmong tableScopeNames) (b.isAmong names) b.stack

def hasInTableScope (b : Builder) (name : String) : Bool := b.hasAnyInTableScope [name]

def hasInSelectScope (b : Builder) (name : String) : Bool :=
  inScopeBy (fun n => !b.isAmong ["optgroup", "option"] n) (b.isNamed name) b.stack

end Builder

namespace Build

open Builder

def setMode (m : Mode) : Build Unit := modify ({ · with mode := m })

def forbidFrameset : Build Unit := modify ({ · with framesetAllowed := false })

def push (n : NodeId) : Build Unit := modify fun b => { b with stack := n :: b.stack }

def pop : Build Unit := modify fun b => { b with stack := b.stack.tail }

def removeFromStack (n : NodeId) : Build Unit :=
  modify fun b => { b with stack := b.stack.erase n }

def pushMarker : Build Unit := modify fun b => { b with formatting := .marker :: b.formatting }

/-! ## Closing elements -/

/-- Closes elements as long as the innermost satisfies `p`. -/
def popWhile (p : Builder → NodeId → Bool) : Build Unit :=
  modify fun b => { b with stack := b.stack.dropWhile (p b) }

/-- Closes elements up to and including the first that satisfies `p`. -/
def popThrough (p : Builder → NodeId → Bool) : Build Unit :=
  modify fun b => { b with stack := (b.stack.dropWhile fun n => !p b n).drop 1 }

def popThroughNamed (name : String) : Build Unit := popThrough fun b => b.isNamed name

/-- Closes elements up to the first that has one of the names. -/
def popToAmong (names : List String) : Build Unit := popWhile fun b n => !b.isAmong names n

def closeImplied : Build Unit := popWhile fun b => b.isAmong impliedEndNames

def closeImpliedExcept (name : String) : Build Unit :=
  popWhile fun b n => b.isAmong impliedEndNames n && !b.isNamed name n

def closeParagraph : Build Unit := do
  closeImpliedExcept "p"
  popThroughNamed "p"

def closeParagraphInScope : Build Unit := do
  if (← get).hasInButtonScope "p" then closeParagraph

/-! ## Inserting nodes -/

/-- Where a node is to go: at the end of a parent, or before a table, or at the end of the element
that holds the table if the table has no parent. -/
inductive Spot
  | lastIn (parent : NodeId)
  | beforeTable (table holder : NodeId)

/-- The parent of what is put into `n`: for a template its fragment. -/
def inside (b : Builder) (n : NodeId) : NodeId :=
  if b.isNamed "template" n then (b.store.children n)[0]?.getD n else n

/-- The place before the innermost open table, unless a template is open inside it. -/
def fosterSpot (b : Builder) : List NodeId → Option Spot
  | [] => none
  | n :: ns =>
    if b.isNamed "template" n then some (.lastIn (inside b n))
    else if b.isNamed "table" n then some (.beforeTable n (ns.head?.getD Store.documentId))
    else fosterSpot b ns

def spotFor (b : Builder) (target : NodeId) : Spot :=
  if b.fostering && b.isAmong tableOuterNames target then
    (fosterSpot b b.stack).getD (.lastIn (b.stack.getLast?.getD Store.documentId))
  else .lastIn (inside b target)

def current (b : Builder) : NodeId := b.stack.head?.getD Store.documentId

def insertNodeAt (spot : Spot) (n : NodeId) : Build Unit :=
  modify fun b =>
    let store :=
      match spot with
      | .lastIn p => b.store.append p n
      | .beforeTable table holder =>
        if (b.store.parent? table).isSome then b.store.insertBefore table n
        else b.store.append holder n
    { b with store }

def appendText (text : String) : Build Unit :=
  modify fun b =>
    let store :=
      match spotFor b (current b) with
      | .lastIn p => b.store.appendText p text
      | .beforeTable table holder =>
        if (b.store.parent? table).isSome then b.store.insertTextBefore table text
        else b.store.appendText holder text
    { b with store }

def create (c : Content) : Build NodeId :=
  modifyGet fun b =>
    let (n, store) := b.store.create c
    (n, { b with store })

/-- A new element; a template is created with its fragment. -/
def createElement (vocabulary : Vocabulary) (name : String) (attributes : List Attribute) :
    Build NodeId := do
  let n ← create (.element ⟨vocabulary, name, attributes⟩)
  if vocabulary = .html ∧ name = "template" then
    let f ← create .fragment
    modify fun b => { b with store := b.store.append n f }
  return n

/-- Creates an element and inserts it at the current place. -/
def insertClosed (vocabulary : Vocabulary) (name : String) (attributes : List Attribute) :
    Build NodeId := do
  let n ← createElement vocabulary name attributes
  let b ← get
  insertNodeAt (spotFor b (current b)) n
  return n

/-- Creates, inserts and opens an element. -/
def insertOpen (vocabulary : Vocabulary) (name : String) (attributes : List Attribute) :
    Build NodeId := do
  let n ← insertClosed vocabulary name attributes
  push n
  return n

/-- The element of a start tag. -/
def insertTag (t : Tag) : Build NodeId :=
  insertOpen .html t.name (t.attributes.map plainAttribute)

/-- The element of a start tag that has no content. -/
def insertVoid (t : Tag) : Build Unit := do
  let _ ← insertClosed .html t.name (t.attributes.map plainAttribute)

/-- An element that the page left out. -/
def insertImplied (name : String) : Build NodeId := insertOpen .html name []

def appendCommentTo (parent : NodeId) (text : String) : Build Unit := do
  let n ← create (.comment text)
  modify fun b => { b with store := b.store.append parent n }

def appendComment (text : String) : Build Unit := do
  let n ← create (.comment text)
  let b ← get
  insertNodeAt (spotFor b (current b)) n

/-- Adds the attributes that an element does not have yet. -/
def addAttributes (n : NodeId) (t : Tag) : Build Unit :=
  modify fun b =>
    match b.element? n with
    | none => b
    | some e =>
      let new := (t.attributes.map plainAttribute).filter fun a =>
        !e.attributes.any fun a' => a'.space = a.space ∧ a'.name = a.name
      let e := { e with attributes := e.attributes ++ new }
      { b with store := b.store.update n fun r => { r with content := .element e } }

/-- Opens an element whose content is read as text. -/
def insertText (t : Tag) (reading : Reading) : Build Unit := do
  let _ ← insertTag t
  modify ({ · with textRun := .inElement, reading })

/-! ## The mode after a change of the open elements -/

/-- The mode for content of a select element: whether a table is open around it. -/
def selectMode (b : Builder) : List NodeId → Mode
  | [] => .inSelect
  | n :: ns =>
    if b.isNamed "template" n then .inSelect
    else if b.isNamed "table" n then .inSelectInTable
    else selectMode b ns

def modeFor (b : Builder) : List NodeId → Mode
  | [] => .inBody
  | n :: ns =>
    let last := ns.isEmpty
    if b.isNamed "select" n then selectMode b ns
    else if b.isAmong ["td", "th"] n && !last then .inCell
    else if b.isNamed "tr" n then .inRow
    else if b.isAmong ["tbody", "thead", "tfoot"] n then .inTableBody
    else if b.isNamed "caption" n then .inCaption
    else if b.isNamed "colgroup" n then .inColumnGroup
    else if b.isNamed "table" n then .inTable
    else if b.isNamed "template" n then b.templateModes.head?.getD .inTemplate
    else if b.isNamed "head" n && !last then .inHead
    else if b.isNamed "body" n then .inBody
    else if b.isNamed "frameset" n then .inFrameset
    else if b.isNamed "html" n then if b.head.isNone then .beforeHead else .afterHead
    else modeFor b ns

/-- The mode that fits the open elements. -/
def resetMode : Build Unit := modify fun b => { b with mode := modeFor b b.stack }

end Build

end WebExtract.Html
