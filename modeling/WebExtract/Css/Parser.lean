import WebExtract.Css.Lexer
import WebExtract.Css.Selector

/-!
# Reading selectors

Each reader takes the unread components and returns what it read and what is left, or, if something
is wrong, what is left unread there. Functions are read by a reader that is passed down, one level
of nesting deeper.
-/
namespace WebExtract.Css

namespace Parser

/-- What was read, or what is left unread where something is wrong. -/
abbrev Reading (α : Type) := Except (List Component) α

/-- Reads the arguments of a function. -/
abbrev FunctionReader := String → List Component → Option (List Simple)

def orWrong {α : Type} (unread : List Component) : Option α → Reading α
  | some a => .ok a
  | none => .error unread

def dropBlanks : List Component → List Component
  | .token .blank :: cs => dropBlanks cs
  | cs => cs

/-- The parts between top-level commas. -/
def splitCommas : List Component → List (List Component)
  | [] => [[]]
  | c :: cs =>
    match c, splitCommas cs with
    | .token .comma, parts => [] :: parts
    | c, part :: parts => (c :: part) :: parts
    | c, [] => [[c]]

/-! ## Attributes -/

def caseRule? (cs : List Component) : Option CaseRule :=
  match dropBlanks cs with
  | [] => some .byAttribute
  | .token (.ident f) :: cs =>
    if !(dropBlanks cs).isEmpty then none
    else if f.toLower = "i" then some .ignoring
    else if f.toLower = "s" then some .exact
    else none
  | _ => none

def attributeValue? (op : AttributeOp) (cs : List Component) :
    Option (AttributeOp × String × CaseRule) :=
  match dropBlanks cs with
  | .token (.ident v) :: cs => (caseRule? cs).map fun r => (op, v, r)
  | .token (.string v) :: cs => (caseRule? cs).map fun r => (op, v, r)
  | _ => none

def attributeOp : MatchSign → AttributeOp
  | .includes => .includes
  | .dash => .dash
  | .start => .start
  | .finish => .finish
  | .within => .within

def attributeTest? (anySpace : Bool) (name : String) (cs : List Component) :
    Option AttributeTest :=
  match dropBlanks cs with
  | [] => some ⟨name, anySpace, none⟩
  | .token (.delim '=') :: cs =>
    (attributeValue? .equal cs).map fun v => ⟨name, anySpace, some v⟩
  | .token (.sign s) :: cs =>
    (attributeValue? (attributeOp s) cs).map fun v => ⟨name, anySpace, some v⟩
  | _ => none

/-- The contents of square brackets. No namespace has a name here, so a name before a bar is
wrong. -/
def attribute? (cs : List Component) : Option AttributeTest :=
  match dropBlanks cs with
  | .token (.ident _) :: .token (.delim '|') :: _ => none
  | .token (.ident n) :: cs => attributeTest? false n cs
  | .token (.delim '|') :: .token (.ident n) :: cs => attributeTest? false n cs
  | .token (.delim '*') :: .token (.delim '|') :: .token (.ident n) :: cs =>
    attributeTest? true n cs
  | _ => none

/-! ## Compounds -/

/-- Pseudo-classes without arguments. -/
def pseudoClass? (name : String) : Option (List Simple) :=
  let first : Position → Simple := (.nth · 0 1)
  match name.toLower with
  | "root" => some [.root]
  | "empty" => some [.empty]
  | "scope" => some [.scope]
  | "first-child" => some [first ⟨false, false⟩]
  | "last-child" => some [first ⟨false, true⟩]
  | "only-child" => some [first ⟨false, false⟩, first ⟨false, true⟩]
  | "first-of-type" => some [first ⟨true, false⟩]
  | "last-of-type" => some [first ⟨true, true⟩]
  | "only-of-type" => some [first ⟨true, false⟩, first ⟨true, true⟩]
  | _ => none

/-- The conditions at the front, up to what is none. -/
def conditions (function : FunctionReader) :
    List Component → Except (List Component) (List Simple × List Component)
  | [] => .ok ([], [])
  | .token (.idHash n) :: cs => do
    let (ss, rest) ← conditions function cs
    return (.id n :: ss, rest)
  | .token (.delim '.') :: .token (.ident n) :: cs => do
    let (ss, rest) ← conditions function cs
    return (.cls n :: ss, rest)
  | .token (.delim '.') :: cs => .error (cs.drop 1)
  | .block '[' inner :: cs => do
    let test ← orWrong cs (attribute? inner)
    let (ss, rest) ← conditions function cs
    return (.attribute test :: ss, rest)
  | .token .colon :: .token (.ident n) :: cs => do
    let found ← orWrong cs (pseudoClass? n)
    let (ss, rest) ← conditions function cs
    return (found ++ ss, rest)
  | .token .colon :: .function n inner :: cs => do
    let found ← orWrong cs (function n inner)
    let (ss, rest) ← conditions function cs
    return (found ++ ss, rest)
  | .token .colon :: .token .colon :: cs => .error (cs.drop 1)
  | .token .colon :: cs => .error (cs.drop 1)
  | cs => .ok ([], cs)

/-- The type at the front of a compound, if there is one. -/
def typeCondition :
    List Component → Except (List Component) (List Simple × List Component)
  | .token (.ident _) :: .token (.delim '|') :: cs => .error cs
  | .token (.ident n) :: cs => .ok ([.type n], cs)
  | .token (.delim '*') :: .token (.delim '|') :: .token (.delim '*') :: cs => .ok ([.any], cs)
  | .token (.delim '*') :: .token (.delim '|') :: .token (.ident n) :: cs => .ok ([.type n], cs)
  | .token (.delim '*') :: .token (.delim '|') :: cs => .error (cs.drop 1)
  | .token (.delim '*') :: cs => .ok ([.any], cs)
  | .token (.delim '|') :: .token (.delim '*') :: cs => .ok ([.noSpace], cs)
  | .token (.delim '|') :: .token (.ident n) :: cs => .ok ([.noSpace, .type n], cs)
  | .token (.delim '|') :: cs => .error (cs.drop 1)
  | cs => .ok ([], cs)

/-- A compound has at least one condition. -/
def compound (function : FunctionReader) (cs : List Component) :
    Except (List Component) (List Simple × List Component) := do
  let (t, cs) ← typeCondition (dropBlanks cs)
  let (ss, cs) ← conditions function cs
  if (t ++ ss).isEmpty then .error cs else return (t ++ ss, cs)

def combinatorOf : Char → Option Combinator
  | '>' => some .child
  | '+' => some .nextSibling
  | '~' => some .laterSibling
  | _ => none

/-- The combinator at the front; blanks alone are one if something follows. -/
def combinator? (cs : List Component) : Option Combinator × List Component :=
  let byBlanks : Option Combinator :=
    match cs with
    | .token .blank :: _ => some .descendant
    | _ => none
  match dropBlanks cs with
  | [] => (none, [])
  | .token (.delim c) :: rest =>
    match combinatorOf c with
    | some k => (some k, rest)
    | none => (byBlanks, .token (.delim c) :: rest)
  | rest => (byBlanks, rest)

/-- The compounds after `left`, in at most `fuel` steps; all components have to be used. -/
def chain (function : FunctionReader) (left : Complex) :
    (fuel : Nat) → List Component → Reading Complex
  | 0, cs => .error cs
  | fuel + 1, cs =>
    match combinator? cs with
    | (none, []) => .ok left
    | (none, cs) => .error cs
    | (some k, cs) => do
      let (ss, cs) ← compound function cs
      chain function (.combined left k ss) fuel cs

/-! ## Positions -/

/-- The number that a name of the form `n-1` ends in, with its sign. -/
def dashDigits? (unit : String) : Option Int :=
  match unit.toList with
  | n :: '-' :: ds =>
    if (n = 'n' ∨ n = 'N') ∧ !ds.isEmpty ∧ ds.all Text.isDigit then
      some (Lexer.clamp (-(Text.number 10 ds : Nat)))
    else none
  | _ => none

/-- A number without a sign, and nothing after it. -/
def unsigned? (a sign : Int) (cs : List Component) : Option (Int × Int) :=
  match dropBlanks cs with
  | .token (.number false (some b)) :: cs =>
    if (dropBlanks cs).isEmpty then some (a, sign * b) else none
  | _ => none

/-- What may follow the `n` of a formula. -/
def offset? (a : Int) (cs : List Component) : Option (Int × Int) :=
  match dropBlanks cs with
  | [] => some (a, 0)
  | .token (.delim '+') :: cs => unsigned? a 1 cs
  | .token (.delim '-') :: cs => unsigned? a (-1) cs
  | .token (.number true (some b)) :: cs =>
    if (dropBlanks cs).isEmpty then some (a, b) else none
  | _ => none

/-- The rest of a formula whose `n`, with what is attached to it, is `unit`. -/
def formula? (a : Int) (unit : String) (cs : List Component) : Option (Int × Int) :=
  if unit.toLower = "n" then offset? a cs
  else if unit.toLower = "n-" then unsigned? a (-1) cs
  else
    match dashDigits? unit with
    | some b => if (dropBlanks cs).isEmpty then some (a, b) else none
    | none => none

/-- The formula for a position: `odd`, `even`, a number, or a multiple of `n` with an offset. -/
def position? (cs : List Component) : Option (Int × Int) :=
  let word (w : String) (cs : List Component) : Option (Int × Int) :=
    if w.toLower = "even" then if (dropBlanks cs).isEmpty then some (2, 0) else none
    else if w.toLower = "odd" then if (dropBlanks cs).isEmpty then some (2, 1) else none
    else formula? 1 w cs
  match dropBlanks cs with
  | .token (.number _ (some b)) :: cs => if (dropBlanks cs).isEmpty then some (0, b) else none
  | .token (.dimension _ (some a) unit) :: cs => formula? a unit cs
  | .token (.ident w) :: cs =>
    match w.toList with
    | '-' :: unit => formula? (-1) (String.ofList unit) cs
    | _ => word w cs
  | .token (.delim '+') :: .token (.ident w) :: cs => word w cs
  | _ => none

/-! ## Levels -/

/-- One alternative. -/
def complex (function : FunctionReader) (cs : List Component) : Reading Complex := do
  let (ss, cs) ← compound function cs
  chain function (.compound ss) (cs.length + 1) cs

/-- Alternatives, none of which may be wrong. -/
def alternatives? (function : FunctionReader) (cs : List Component) : Option (List Complex) :=
  (splitCommas cs).mapM fun part => (complex function part).toOption

/-- Alternatives of which wrong ones are left out, unless something broken is left unread. -/
def soundAlternatives? (function : FunctionReader) (cs : List Component) :
    Option (List Complex) := do
  let read ← (splitCommas cs).mapM fun part =>
    match complex function part with
    | .ok c => some [c]
    | .error unread => if Component.anyError unread then none else some []
  return read.flatten

def relative? (function : FunctionReader) (cs : List Component) : Option Relative :=
  let (k, rest) :=
    match dropBlanks cs with
    | .token (.delim c) :: rest =>
      match combinatorOf c with
      | some k => (k, rest)
      | none => (.descendant, cs)
    | _ => (.descendant, cs)
  (complex function rest).toOption.map (.mk k)

def relatives? (function : FunctionReader) (cs : List Component) : Option (List Relative) :=
  (splitCommas cs).mapM (relative? function)

def positionOf : String → Option Position
  | "nth-child" => some ⟨false, false⟩
  | "nth-last-child" => some ⟨false, true⟩
  | "nth-of-type" => some ⟨true, false⟩
  | "nth-last-of-type" => some ⟨true, true⟩
  | _ => none

/-- Reads functions nested at most `depth` levels deep. A relative selector may not hold another
one. -/
def function? : (depth : Nat) → (inHas : Bool) → FunctionReader
  | 0, _, _, _ => none
  | depth + 1, inHas, name, cs =>
    let name := name.toLower
    match positionOf name with
    | some p => (position? cs).map fun (a, b) => [.nth p a b]
    | none =>
      if name = "is" ∨ name = "where" then
        (soundAlternatives? (function? depth inHas) cs).map fun l => [.oneOf l]
      else if name = "not" then
        (alternatives? (function? depth inHas) cs).map fun l => [.noneOf l]
      else if name = "has" ∧ !inHas then
        (relatives? (function? depth true) cs).map fun l => [.has l]
      else none

end Parser

/-- The selector that a text describes; none if it cannot be read, whatever the reason. -/
def Selector.parse? (text : String) : Option Selector :=
  let cs := Component.ofTokens (Lexer.tokens text)
  (Parser.alternatives? (Parser.function? text.length false) cs).map (⟨·⟩)

end WebExtract.Css
