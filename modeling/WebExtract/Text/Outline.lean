import WebExtract.Text.Quoted

/-!
# Outlines of values

An outline shows how a value is put together: named tuples, named records and lists of parts. It is
written on one line, or with each part on a line of its own.
-/
namespace WebExtract.Text

inductive Outline
  | word (text : String)
  | quoted (text : String)
  | tuple (name : String) (parts : List Outline)
  | record (name : String) (parts : List (String × Outline))
  | list (parts : List Outline)

namespace Outline

/-- An optional value. -/
def option : Option Outline → Outline
  | none => .word "None"
  | some o => .tuple "Some" [o]

mutual

/-- On one line. -/
def line : Outline → List Char
  | .word text => text.toList
  | .quoted text => quote text
  | .tuple name parts => name.toList ++ '(' :: lineParts true parts ++ [')']
  | .record name parts =>
    name.toList ++ [' ', '\x7b', ' '] ++ lineFields true parts ++ [' ', '\x7d']
  | .list parts => '[' :: lineParts true parts ++ [']']

/-- The parts with commas between them; `first` tells whether no comma is due. -/
def lineParts (first : Bool) : List Outline → List Char
  | [] => []
  | p :: ps => (if first then [] else [',', ' ']) ++ p.line ++ lineParts false ps

def lineFields (first : Bool) : List (String × Outline) → List Char
  | [] => []
  | (name, p) :: ps =>
    (if first then [] else [',', ' ']) ++ name.toList ++ [':', ' '] ++ p.line ++
      lineFields false ps

end

/-- A new line, four blanks in for each level. -/
def newLine (level : Nat) : List Char := '\n' :: List.replicate (4 * level) ' '

mutual

/-- On several lines, with a comma after each part; the first line is already indented. -/
def lines (level : Nat) : Outline → List Char
  | .word text => text.toList
  | .quoted text => quote text
  | .tuple name parts =>
    name.toList ++ '(' :: linesParts (level + 1) parts ++ newLine level ++ [')']
  | .record name parts =>
    name.toList ++ [' ', '\x7b'] ++ linesFields (level + 1) parts ++ newLine level ++ ['\x7d']
  | .list [] => ['[', ']']
  | .list (p :: ps) => '[' :: linesParts (level + 1) (p :: ps) ++ newLine level ++ [']']

def linesParts (level : Nat) : List Outline → List Char
  | [] => []
  | p :: ps => newLine level ++ p.lines level ++ ',' :: linesParts level ps

def linesFields (level : Nat) : List (String × Outline) → List Char
  | [] => []
  | (name, p) :: ps =>
    newLine level ++ name.toList ++ [':', ' '] ++ p.lines level ++ ',' :: linesFields level ps

end

end Outline

end WebExtract.Text
