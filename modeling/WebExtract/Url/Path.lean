import WebExtract.Url.Percent

/-!
# Paths

The path of an address is a list of segments, each written behind a slash, or else a text of its
own. Among segments `.` and `..` are not kept: one stands for the place reached, the other takes the
last segment away.
-/
namespace WebExtract.Url

inductive Path
  | segments (l : List String)
  | text (t : String)
  deriving DecidableEq, Repr

namespace Path

def render : Path → String
  | .segments l => String.join (l.map ("/" ++ ·))
  | .text t => t

/-- The segment with dots in place of `%2e`, another way to write them. -/
def plainDots : List Char → List Char
  | '%' :: '2' :: c :: cs =>
    if c = 'e' ∨ c = 'E' then '.' :: plainDots cs else '%' :: '2' :: c :: cs
  | c :: cs => c :: plainDots cs
  | [] => []

def isDot (segment : List Char) : Bool := plainDots segment = ['.']

def isDoubleDot (segment : List Char) : Bool := plainDots segment = ['.', '.']

/-- A letter with a colon or a bar behind it, as drives are written. -/
def isDrive : List Char → Bool
  | [a, b] => Text.isAlpha a && (b = ':' || b = '|')
  | a :: b :: '\\' :: _ => Text.isAlpha a && (b = ':' || b = '|')
  | _ => false

/-- Takes the last segment away; a drive stays. The segments are listed last first. -/
def ascend : List String → List String
  | [] => []
  | s :: ss => if isDrive s.toList then s :: ss else ss

/-- The path to `segments` from the place below the segments `done`, which are listed last first. A
dot segment at the end leaves an empty one. -/
def resolve (done : List String) : List (List Char) → List String
  | [] => done.reverse
  | s :: ss =>
    if isDoubleDot s then resolve (if ss.isEmpty then "" :: ascend done else ascend done) ss
    else if isDot s then resolve (if ss.isEmpty then "" :: done else done) ss
    else resolve (String.ofList (Percent.encode Percent.inPath s) :: done) ss

/-- In an address of a file, empty segments at the front are left out. -/
def ofFile (segments : List String) : Path :=
  match segments.dropWhile (· = "") with
  | [] => .segments [""]
  | l => .segments l

end Path

end WebExtract.Url
