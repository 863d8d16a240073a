import WebExtract.Text.Composition
import WebExtract.Text.Direction
import WebExtract.Text.Joining
import WebExtract.Url.DomainMapping
import WebExtract.Url.Punycode

/-!
# Domain names

`ascii?` gives the ASCII form of a domain name. Characters are mapped and composed; a label with
characters beyond ASCII is written in Punycode behind `xn--`. A label that comes in this form is
read back and checked in the same way as the others:

* it has a character beyond ASCII, is composed and holds no character that would be mapped,
* no label begins with a mark,
* a joiner stands only where it changes how its neighbours are written,
* in a name with right-to-left characters the direction of each label is plain.
-/
namespace WebExtract.Url.Domain

open Text

/-- The marker of a label in Punycode. -/
def marker : List Char := ['x', 'n', '-', '-']

/-- Longest label, in characters, that is read from Punycode or written in it. -/
def longestRead : Nat := 2000
def longestWritten : Nat := 1000

def isAscii (c : Char) : Bool := c.toNat < 0x80

/-- Characters that no domain name may have in its ASCII form. -/
def isForbidden (c : Char) : Bool :=
  c.toNat ≤ 0x20 || c = '#' || c = '%' || c = '/' || c = ':' || c = '<' || c = '>' || c = '?' ||
    c = '@' || c = '[' || c = '\\' || c = ']' || c = '^' || c = '|' || c.toNat = 0x7F

/-- The labels, which have points between them. -/
def labels (cs : List Char) : List (List Char) := cs.splitOn '.'

/-! ## Checks on a label -/

def zeroWidthNonJoiner : Char := '\u200c'
def zeroWidthJoiner : Char := '\u200d'

def followsVirama (before : List Char) : Bool :=
  before.head?.any (combiningClass · = viramaClass)

/-- Whether each joiner has its place; `before` is the text before, the last character first. -/
def joinersFit (before : List Char) : List Char → Bool
  | [] => true
  | c :: cs =>
    (if c = zeroWidthJoiner then followsVirama before
      else if c = zeroWidthNonJoiner then
        followsVirama before ||
          ((before.dropWhile isTransparent).head?.any joinsNext &&
            (cs.dropWhile isTransparent).head?.any joinsPrevious)
      else true) && joinersFit (c :: before) cs

/-- The directions of the characters of a right-to-left label: it holds no left-to-right character
and not both kinds of numbers, and it ends in a letter or number, marks aside. -/
def plainRightToLeft (ds : List Direction) : Bool :=
  ds.all (· ≠ .leftToRight) && !(ds.contains .arabicNumber && ds.contains .europeanNumber) &&
    (ds.reverse.dropWhile (· = .mark)).head?.any fun d =>
      d = .rightToLeft || d = .arabicNumber || d = .europeanNumber

/-- The directions of the characters of a left-to-right label. -/
def plainLeftToRight (ds : List Direction) : Bool :=
  ds.all (fun d => d ≠ .rightToLeft && d ≠ .arabicNumber) &&
    (ds.reverse.dropWhile (· = .mark)).head?.any fun d => d = .leftToRight || d = .europeanNumber

/-- A label begins with a letter, which sets its direction. -/
def isPlain (label : List Char) : Bool :=
  let ds := label.map Direction.of
  match ds with
  | [] => true
  | .rightToLeft :: _ => plainRightToLeft ds
  | .leftToRight :: _ => plainLeftToRight ds
  | _ => false

def turnsLeft (label : List Char) : Bool :=
  label.any fun c => let d := Direction.of c; d = .rightToLeft || d = .arabicNumber

def isWellFormed (label : List Char) : Bool :=
  !label.head?.any isMark && joinersFit [] label

/-! ## The ASCII form -/

def isMarked (label : List Char) : Bool := label.take marker.length = marker

/-- The label that Punycode stands for. -/
def unmarked? (label : List Char) : Option (List Char) :=
  if longestRead < label.length then none
  else
    match Punycode.decode (label.drop marker.length) with
    | none => none
    | some l =>
      if !l.all isAscii && l.all DomainMapping.isValid && compose l = l then some l else none

/-- A label as it is read, and in ASCII. -/
def forms? (label : List Char) : Option (List Char × List Char) :=
  if isMarked label then (unmarked? label).map (·, label)
  else if label.all isAscii then some (label, label)
  else if longestWritten < label.length then none
  else some (label, marker ++ Punycode.encode label)

/-- The ASCII form of a name with characters beyond ASCII or with labels in Punycode. -/
def mappedAscii? (name : List Char) : Option (List Char) := do
  let forms ← (labels (compose (← name.mapM DomainMapping.apply).flatten)).mapM forms?
  if forms.all (isWellFormed ·.1) &&
      (!forms.any (turnsLeft ·.1) || forms.all (isPlain ·.1)) then
    return ['.'].intercalate (forms.map (·.2))
  else none

/-- The ASCII form of a domain name; none if it is no domain name. -/
def ascii? (name : List Char) : Option (List Char) := do
  let lowered := name.map Char.toLower
  let ascii ←
    if name.all isAscii && !(labels lowered).any isMarked then some lowered else mappedAscii? name
  if ascii.any isForbidden then none else return ascii

end WebExtract.Url.Domain
