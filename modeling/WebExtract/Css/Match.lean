import WebExtract.Css.Selector
import WebExtract.Dom.Place
import WebExtract.Text.Ascii
import WebExtract.Text.Blank

/-!
# Matching

`Selector.Matches` asks whether the element at a place satisfies a selector. Combinators and
relative selectors go from element to element: what lies in a template's fragment has no parent
element. The scope is the element that a search started from, or the root if there is none.
-/
namespace WebExtract.Css

open WebExtract.Dom

/-! ## Texts -/

/-- Names of HTML elements and attributes are compared in small letters. -/
def nameFor (e : Element) (name : String) : String :=
  if e.vocabulary = .html then Text.lowerAscii name else name

/-- What the words of an attribute value have between them; the classes of an element may have any
Unicode blank. -/
def isBlank (c : Char) : Bool :=
  c = ' ' || c = '\t' || c = '\n' || c = '\r' || c = '\x0c'

/-- Whether `part` occurs in the text. -/
def occursIn (part : List Char) : List Char → Bool
  | [] => part.isEmpty
  | c :: cs => part.isPrefixOf (c :: cs) || occursIn part cs

def AttributeOp.holds (op : AttributeOp) (actual wanted : List Char) : Bool :=
  match op with
  | .equal => actual = wanted
  | .includes => !wanted.isEmpty && (actual.splitOnP isBlank).contains wanted
  | .dash => actual = wanted || (wanted ++ ['-']).isPrefixOf actual
  | .start => !wanted.isEmpty && wanted.isPrefixOf actual
  | .finish => !wanted.isEmpty && wanted.isSuffixOf actual
  | .within => !wanted.isEmpty && occursIn wanted actual

/-- Attributes of HTML elements whose values are compared regardless of case. -/
def caselessAttributes : List String :=
  ["accept", "accept-charset", "align", "alink", "axis", "bgcolor", "charset", "checked", "clear",
   "codetype", "color", "compact", "declare", "defer", "dir", "direction", "disabled", "enctype",
   "face", "frame", "hreflang", "http-equiv", "lang", "language", "link", "media", "method",
   "multiple", "nohref", "noresize", "noshade", "nowrap", "readonly", "rel", "rev", "rules",
   "scope", "scrolling", "selected", "shape", "target", "text", "type", "valign", "valuetype",
   "vlink"]

def AttributeTest.ignoresCase (t : AttributeTest) (e : Element) : CaseRule → Bool
  | .exact => false
  | .ignoring => true
  | .byAttribute =>
    e.vocabulary = .html && !t.anySpace && caselessAttributes.contains (Text.lowerAscii t.name)

def AttributeTest.holds (t : AttributeTest) (e : Element) : Bool :=
  e.attributes.any fun a =>
    a.name = nameFor e t.name && (t.anySpace || a.space = .none) &&
      match t.value with
      | none => true
      | some (op, wanted, rule) =>
        let seen (s : String) : List Char :=
          if t.ignoresCase e rule then (Text.lowerAscii s).toList else s.toList
        op.holds (seen a.value) (seen wanted)

/-! ## Places -/

/-- Whether two elements are of the same type. -/
def haveSameType (p q : Place) : Bool :=
  match p.element?, q.element? with
  | some e, some f => e.vocabulary = f.vocabulary && e.name = f.name
  | _, _ => false

/-- The position of an element among its siblings, counted from one. -/
def Position.of (pos : Position) (p : Place) : Nat :=
  let others := if pos.fromEnd then p.following else p.preceding
  (others.filter fun q => q.isElement && (!pos.sameType || haveSameType p q)).length + 1

/-- Whether `n` is `a * k + b` for a natural number `k`. What lies beyond 32 bits is not reached. -/
def isNth (a b : Int) (n : Int) : Bool :=
  if a = 0 then n = b
  else n - b ≤ 2147483647 && (n - b) % a = 0 && 0 ≤ (n - b) / a

/-- The elements that a combinator leads to on the way to the left. -/
def Combinator.from (p : Place) : Combinator → List Place
  | .descendant => p.elementAncestors
  | .child => p.elementAncestors.take 1
  | .nextSibling => (p.preceding.filter Place.isElement).take 1
  | .laterSibling => p.preceding.filter Place.isElement

/-- Whether the child of a document. -/
def isRoot (p : Place) : Bool := p.parent?.any fun q => q.tree.isDocument

def isEmpty (p : Place) : Bool := !p.tree.children.any fun t => t.isElement || t.isText

/-- Where a relative selector can lead: below the element, and to later siblings and below them. -/
def reach (p : Place) : Combinator → List Place
  | .descendant | .child => p.reachableElements
  | .nextSibling | .laterSibling =>
    p.following.flatMap fun q => q.tree.elementWalk q

/-! ## Selectors -/

/-- What the leftmost compound of a relative selector has to be tied to. -/
abbrev Anchor := Option (Combinator × Place)

def Anchor.admits (anchor : Anchor) (p : Place) : Bool :=
  match anchor with
  | none => true
  | some (k, q) => (k.from p).any fun r => r.address = q.address

mutual

def Simple.Matches (scope : Option Place) (p : Place) : Simple → Bool
  | .any => true
  | .type name => p.element?.any fun e => e.name = nameFor e name
  | .noSpace => false
  | .id value => p.element?.any fun e => e.attribute? "id" = some value
  | .cls name =>
    p.element?.any fun e =>
      (e.attribute? "class").any fun v => (v.toList.splitOnP Text.isBlank).contains name.toList
  | .attribute test => p.element?.any test.holds
  | .root => isRoot p
  | .empty => isEmpty p
  | .scope =>
    match scope with
    | some q => p.address = q.address
    | none => isRoot p
  | .nth position a b => isNth a b (position.of p)
  | .oneOf cs => Complex.AnyMatches scope p cs
  | .noneOf cs => !Complex.AnyMatches scope p cs
  | .has rs => Relative.AnyMatches scope p rs

def Simple.AllMatch (scope : Option Place) (p : Place) : List Simple → Bool
  | [] => true
  | s :: ss => s.Matches scope p && Simple.AllMatch scope p ss

def Complex.Matches (scope : Option Place) (anchor : Anchor) (p : Place) : Complex → Bool
  | .compound ss => Simple.AllMatch scope p ss && anchor.admits p
  | .combined left k ss =>
    Simple.AllMatch scope p ss && (k.from p).any fun q => left.Matches scope anchor q

def Complex.AnyMatches (scope : Option Place) (p : Place) : List Complex → Bool
  | [] => false
  | c :: cs => c.Matches scope none p || Complex.AnyMatches scope p cs

def Relative.Matches (scope : Option Place) (p : Place) : Relative → Bool
  | .mk k c => (reach p k).any fun q => c.Matches scope (some (k, p)) q

def Relative.AnyMatches (scope : Option Place) (p : Place) : List Relative → Bool
  | [] => false
  | r :: rs => r.Matches scope p || Relative.AnyMatches scope p rs

end

/-- Whether the element at `p` satisfies the selector in a search that started from `scope`. -/
def Selector.Matches (s : Selector) (scope : Option Place) (p : Place) : Bool :=
  p.isElement && Complex.AnyMatches scope p s.alternatives

end WebExtract.Css
