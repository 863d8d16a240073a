import WebExtract.Html.Builder

/-!
# Formatting elements

A formatting element that a block boundary cut off goes on after it (`reconstruct`), and an end tag
that crosses block boundaries splits the element along them (`closeFormatting`).
-/
namespace WebExtract.Html

open WebExtract.Dom

namespace Formatting

def node? : Formatting → Option NodeId
  | .element n _ => some n
  | .marker => none

def isNode (n : NodeId) (f : Formatting) : Bool := f.node? = some n

def isMarker : Formatting → Bool
  | .marker => true
  | .element _ _ => false

/-- The entries after the last mark. -/
def sinceMarker (l : List Formatting) : List Formatting := l.takeWhile fun f => !f.isMarker

def names (name : String) : Formatting → Bool
  | .element _ t => t.name = name
  | .marker => false

/-- The same name and the same attributes in whatever order. -/
def alike (t : Tag) : Formatting → Bool
  | .element _ u =>
    t.name = u.name && t.attributes.length = u.attributes.length &&
      t.attributes.all u.attributes.contains
  | .marker => false

/-- Without the last entry, in the given order, that satisfies `p`. -/
def removeLast (p : Formatting → Bool) (l : List Formatting) : List Formatting :=
  (l.reverse.eraseP p).reverse

def replaceNode (n : NodeId) (new : Formatting) (l : List Formatting) : List Formatting :=
  l.map fun f => if f.isNode n then new else f

/-- With a new entry just after the one of `n`; entries are listed from the latest. -/
def insertAfter (n : NodeId) (new : Formatting) (l : List Formatting) : List Formatting :=
  l.flatMap fun f => if f.isNode n then [new, f] else [f]

def removeNode (n : NodeId) (l : List Formatting) : List Formatting := l.eraseP (isNode n)

end Formatting

namespace Build

open Formatting

def clearFormatting : Build Unit :=
  modify fun b => { b with formatting := (b.formatting.dropWhile fun f => !f.isMarker).drop 1 }

/-- Whether an entry needs no new element: it is a mark or its element is open. -/
def isSettled (b : Builder) (f : Formatting) : Bool :=
  match f with
  | .marker => true
  | .element n _ => b.stack.contains n

/-- New elements for the entries, given from the earliest. -/
def reopen : List Formatting → Build Unit
  | [] => return
  | .marker :: fs => reopen fs
  | .element n t :: fs => do
    let m ← insertTag t
    modify fun b => { b with formatting := replaceNode n (.element m t) b.formatting }
    reopen fs

/-- Opens again the formatting elements that a block cut off. -/
def reconstruct : Build Unit := do
  let b ← get
  reopen (b.formatting.takeWhile fun f => !isSettled b f).reverse

/-- Opens a formatting element; of four alike the first is forgotten. -/
def insertFormatting (t : Tag) : Build Unit := do
  modify fun b =>
    let recent := sinceMarker b.formatting
    if 3 ≤ recent.countP (alike t) then
      { b with formatting := removeLast (alike t) recent ++ b.formatting.drop recent.length }
    else b
  let n ← insertTag t
  modify fun b => { b with formatting := .element n t :: b.formatting }

/-- An end tag for which no other rule holds: it closes the innermost element of its name, unless
a special element is open inside that. -/
def closeByName (name : String) : Build Unit := do
  let b ← get
  match b.stack.find? fun n => b.isNamed name n || b.isAmong specialNames n with
  | none => return
  | some n =>
    if b.isNamed name n then
      closeImpliedExcept name
      modify fun b => { b with stack := (b.stack.dropWhile (· ≠ n)).drop 1 }

/-! ## End tags across blocks -/

/-- The state of a split: the node to be hung up next, the stack entries passed so far, the latest
last, and the entry after which the new formatting element is to be listed, if it is not to take
the place of the old one. -/
structure Split where
  last : NodeId
  passed : List NodeId
  after : Option NodeId

/-- Passes the open elements between the block and the formatting element, outwards. Of the first
three those that are formatting elements are split too; all others are closed. -/
def splitBetween (block : NodeId) (s : Split) : (count : Nat) → List NodeId → Build Split
  | _, [] => return s
  | count, n :: ns => do
    let b ← get
    match b.formatting.find? (isNode n) with
    | some (.element _ t) =>
      if 3 ≤ count then
        modify fun b => { b with formatting := removeNode n b.formatting }
        splitBetween block s (count + 1) ns
      else
        let m ← createElement .html t.name (t.attributes.map plainAttribute)
        modify fun b =>
          { b with
            formatting := replaceNode n (.element m t) b.formatting
            store := b.store.append m s.last }
        let after := if s.last = block then some m else s.after
        splitBetween block ⟨m, s.passed ++ [m], after⟩ (count + 1) ns
    | _ => splitBetween block s (count + 1) ns

/-- Splits the formatting element `n` of the tag `t` at the block `block`, which is open inside it;
`inner` and `between` are the open elements inside the block and those between the two, and `outer`
those around `n`. -/
def splitAt (n : NodeId) (t : Tag) (inner : List NodeId) (block : NodeId)
    (between outer : List NodeId) : Build Unit := do
  let s ← splitBetween block ⟨block, [], none⟩ 0 between
  let b ← get
  modify fun b => { b with store := b.store.detach s.last }
  insertNodeAt (spotFor b (outer.head?.getD Store.documentId)) s.last
  let m ← createElement .html t.name (t.attributes.map plainAttribute)
  modify fun b =>
    let store := (b.store.moveChildren block m).append block m
    let entry := .element m t
    let formatting :=
      match s.after with
      | none => replaceNode n entry b.formatting
      | some a => removeNode n (insertAfter a entry b.formatting)
    { b with store, formatting, stack := inner ++ m :: block :: s.passed ++ outer }

/-- Closes the latest formatting element of a name, splitting it as often as blocks are open inside
it, at most `rounds` times. -/
def closeFormattingRounds (name : String) : (rounds : Nat) → Build Unit
  | 0 => return
  | rounds + 1 => do
    let b ← get
    match (sinceMarker b.formatting).find? (names name) with
    | some (.element n t) =>
      if !b.stack.contains n then
        modify fun b => { b with formatting := removeNode n b.formatting }
      else if !b.inDefaultScope (· = n) then return
      else
        let inside := b.stack.takeWhile (· ≠ n)
        let outer := (b.stack.dropWhile (· ≠ n)).drop 1
        -- the outermost special element inside `n`
        match inside.reverse.find? (b.isAmong specialNames) with
        | none =>
          modify fun b => { b with stack := outer, formatting := removeNode n b.formatting }
        | some block =>
          let inner := inside.takeWhile (· ≠ block)
          let between := (inside.dropWhile (· ≠ block)).drop 1
          splitAt n t inner block between outer
          closeFormattingRounds name rounds
    | _ => closeByName name

/-- The end tag of a formatting element. -/
def closeFormatting (name : String) : Build Unit := do
  let b ← get
  match b.stack with
  | n :: _ =>
    if b.isNamed name n && !b.formatting.any (isNode n) then pop
    else closeFormattingRounds name 8
  | [] => return

/-- A link inside a link ends the outer one. -/
def closeOpenLink : Build Unit := do
  let b ← get
  match (sinceMarker b.formatting).find? fun f => f.node?.any (b.isNamed "a") with
  | some (.element n _) =>
    closeFormatting "a"
    modify fun b =>
      { b with formatting := removeNode n b.formatting, stack := b.stack.erase n }
  | _ => return

end Build

end WebExtract.Html
