/-!
# Selectors

A selector is a list of alternatives. An alternative is a chain of compounds, each tied to the one
before it by a combinator; a compound is a list of conditions on one element.
-/
namespace WebExtract.Css

inductive Combinator
  | descendant | child | nextSibling | laterSibling
  deriving DecidableEq, Repr

inductive AttributeOp
  | equal | includes | dash | start | finish | within
  deriving DecidableEq, Repr

/-- How the value of an attribute is compared. By default this depends on the attribute. -/
inductive CaseRule
  | byAttribute | exact | ignoring
  deriving DecidableEq, Repr

/-- A condition on an attribute; `anySpace` if its namespace does not matter. -/
structure AttributeTest where
  name : String
  anySpace : Bool
  value : Option (AttributeOp × String × CaseRule)
  deriving DecidableEq, Repr

/-- A position among siblings: whether only those of the same kind count, and from which end. -/
structure Position where
  sameType : Bool
  fromEnd : Bool
  deriving DecidableEq, Repr

mutual

inductive Simple
  | any
  | type (name : String)
  /-- Only elements in no namespace. -/
  | noSpace
  | id (value : String)
  | cls (name : String)
  | attribute (test : AttributeTest)
  | root
  | empty
  | scope
  /-- The position is `a * n + b` for some natural number `n`. -/
  | nth (position : Position) (a b : Int)
  | oneOf (alternatives : List Complex)
  | noneOf (alternatives : List Complex)
  | has (alternatives : List Relative)

inductive Complex
  | compound (conditions : List Simple)
  | combined (left : Complex) (combinator : Combinator) (conditions : List Simple)

/-- A selector that starts from a given element. -/
inductive Relative
  | mk (combinator : Combinator) (selector : Complex)

end

structure Selector where
  alternatives : List Complex

mutual

/-- Whether the conditions mention the scope. -/
def Simple.usesScope : Simple → Bool
  | .scope => true
  | .oneOf cs => Complex.anyUsesScope cs
  | .noneOf cs => Complex.anyUsesScope cs
  | .has rs => Relative.anyUsesScope rs
  | _ => false

def Simple.anyUsesScope : List Simple → Bool
  | [] => false
  | s :: ss => s.usesScope || Simple.anyUsesScope ss

def Complex.usesScope : Complex → Bool
  | .compound ss => Simple.anyUsesScope ss
  | .combined left _ ss => left.usesScope || Simple.anyUsesScope ss

def Complex.anyUsesScope : List Complex → Bool
  | [] => false
  | c :: cs => c.usesScope || Complex.anyUsesScope cs

def Relative.usesScope : Relative → Bool
  | .mk _ c => c.usesScope

def Relative.anyUsesScope : List Relative → Bool
  | [] => false
  | r :: rs => r.usesScope || Relative.anyUsesScope rs

end

def Selector.usesScope (s : Selector) : Bool := Complex.anyUsesScope s.alternatives

end WebExtract.Css
