import Mathlib.Tactic.Simps.Basic
import WebExtract.Text.Outline

/-!
# Layouts of outlines

An outline is written in a layout: what comes before and after each part, and before the bracket
that closes. The line and the lines of an outline are two layouts of it (`write_oneLine`,
`write_indented`), so what holds of every layout holds of both.

A layout is clear (`Layout.Clear`) if in a list of parts that begin with a round bracket it can
always be seen whether another part comes or the list ends.
-/
namespace WebExtract.Text

structure Layout where
  /-- What comes before a part, which may be the first. -/
  before (level : Nat) (first : Bool) : List Char
  after : List Char
  /-- What comes before the bracket that closes a tuple or a list. -/
  close (level : Nat) : List Char
  /-- What comes after the bracket that opens a record. -/
  openRecord : List Char
  closeRecord (level : Nat) : List Char

namespace Outline

mutual

def write (m : Layout) (level : Nat) : Outline → List Char
  | .word text => text.toList
  | .quoted text => quote text
  | .tuple name parts =>
    name.toList ++ '(' :: writeParts m (level + 1) true parts ++ m.close level ++ [')']
  | .record name parts =>
    name.toList ++ [' ', '\x7b'] ++ m.openRecord ++ writeFields m (level + 1) true parts ++
      m.closeRecord level ++ ['\x7d']
  | .list [] => ['[', ']']
  | .list (p :: ps) => '[' :: writeParts m (level + 1) true (p :: ps) ++ m.close level ++ [']']

def writeParts (m : Layout) (level : Nat) (first : Bool) : List Outline → List Char
  | [] => []
  | p :: ps => m.before level first ++ p.write m level ++ m.after ++ writeParts m level false ps

def writeFields (m : Layout) (level : Nat) (first : Bool) : List (String × Outline) → List Char
  | [] => []
  | (name, p) :: ps =>
    m.before level first ++ name.toList ++ [':', ' '] ++ p.write m level ++ m.after ++
      writeFields m level false ps

end

end Outline

/-! ## What is written, with what comes behind it -/

section

variable (m : Layout) (level : Nat) (cs : List Char)

theorem Outline.write_tuple_one (name : String) (a : Outline) :
    (Outline.tuple name [a]).write m level ++ cs =
      (name.toList ++ '(' :: m.before (level + 1) true) ++
        (a.write m (level + 1) ++ (m.after ++ (m.close level ++ ')' :: cs))) := by
  simp [Outline.write, Outline.writeParts]

theorem Outline.write_tuple_two (name : String) (a b : Outline) :
    (Outline.tuple name [a, b]).write m level ++ cs =
      (name.toList ++ '(' :: m.before (level + 1) true) ++
        (a.write m (level + 1) ++ ((m.after ++ m.before (level + 1) false) ++
          (b.write m (level + 1) ++ (m.after ++ (m.close level ++ ')' :: cs))))) := by
  simp [Outline.write, Outline.writeParts]

theorem Outline.write_record_one (name field : String) (a : Outline) :
    (Outline.record name [(field, a)]).write m level ++ cs =
      (name.toList ++ [' ', '\x7b'] ++ m.openRecord ++ m.before (level + 1) true ++
          field.toList ++ [':', ' ']) ++
        (a.write m (level + 1) ++ (m.after ++ (m.closeRecord level ++ '\x7d' :: cs))) := by
  simp [Outline.write, Outline.writeFields]

theorem Outline.write_record_two (name field field' : String) (a b : Outline) :
    (Outline.record name [(field, a), (field', b)]).write m level ++ cs =
      (name.toList ++ [' ', '\x7b'] ++ m.openRecord ++ m.before (level + 1) true ++
          field.toList ++ [':', ' ']) ++
        (a.write m (level + 1) ++
          ((m.after ++ m.before (level + 1) false ++ field'.toList ++ [':', ' ']) ++
            (b.write m (level + 1) ++ (m.after ++ (m.closeRecord level ++ '\x7d' :: cs))))) := by
  simp [Outline.write, Outline.writeFields]

end

namespace Layout

/-- Commas and blanks between the parts. -/
@[simps] def oneLine : Layout where
  before _ first := if first then [] else [',', ' ']
  after := []
  close _ := []
  openRecord := [' ']
  closeRecord _ := [' ']

/-- A line for each part, four blanks in for each level. -/
@[simps] def indented : Layout where
  before level _ := Outline.newLine level
  after := [',']
  close := Outline.newLine
  openRecord := []
  closeRecord := Outline.newLine

end Layout

namespace Outline

mutual

theorem write_oneLine : ∀ (o : Outline) (level : Nat), o.write .oneLine level = o.line
  | .word _, _ => by simp only [write, line]
  | .quoted _, _ => by simp only [write, line]
  | .tuple name parts, level => by
    simp [write, line, writeParts_oneLine parts]
  | .record name parts, level => by
    simp [write, line, writeFields_oneLine parts]
  | .list [], level => by simp only [write, line, lineParts]; rfl
  | .list (p :: ps), level => by
    simp [write, line, writeParts_oneLine (p :: ps)]

theorem writeParts_oneLine : ∀ (ps : List Outline) (level : Nat) (first : Bool),
    writeParts .oneLine level first ps = lineParts first ps
  | [], _, _ => by simp only [writeParts, lineParts]
  | p :: ps, level, first => by
    simp [writeParts, lineParts, write_oneLine p, writeParts_oneLine ps]

theorem writeFields_oneLine : ∀ (ps : List (String × Outline)) (level : Nat) (first : Bool),
    writeFields .oneLine level first ps = lineFields first ps
  | [], _, _ => by simp only [writeFields, lineFields]
  | (name, p) :: ps, level, first => by
    simp [writeFields, lineFields, write_oneLine p, writeFields_oneLine ps]

end

mutual

theorem write_indented : ∀ (o : Outline) (level : Nat), o.write .indented level = o.lines level
  | .word _, _ => by simp only [write, lines]
  | .quoted _, _ => by simp only [write, lines]
  | .tuple name parts, level => by
    simp [write, lines, writeParts_indented parts]
  | .record name parts, level => by
    simp [write, lines, writeFields_indented parts]
  | .list [], level => by simp only [write, lines]
  | .list (p :: ps), level => by
    simp [write, lines, writeParts_indented (p :: ps)]

theorem writeParts_indented : ∀ (ps : List Outline) (level : Nat) (first : Bool),
    writeParts .indented level first ps = linesParts level ps
  | [], _, _ => by simp only [writeParts, linesParts]
  | p :: ps, level, first => by
    simp [writeParts, linesParts, write_indented p, writeParts_indented ps]

theorem writeFields_indented : ∀ (ps : List (String × Outline)) (level : Nat) (first : Bool),
    writeFields .indented level first ps = linesFields level ps
  | [], _, _ => by simp only [writeFields, linesFields]
  | (name, p) :: ps, level, first => by
    simp [writeFields, linesFields, write_indented p, writeFields_indented ps]

end

end Outline

namespace Layout

structure Clear (m : Layout) : Prop where
  /-- A list that has a part does not look like an empty one. -/
  start : ∀ level cs cs', m.before (level + 1) true ++ '(' :: cs ≠ ']' :: cs'
  next : ∀ level first cs cs', m.before (level + 1) first ++ '(' :: cs ≠ m.close level ++ ']' :: cs'

theorem clear_oneLine : oneLine.Clear where
  start _ _ _ := by simp
  next _ first _ _ := by cases first <;> simp

/-- The parts of a list are further in than the bracket that closes it. -/
theorem clear_indented : indented.Clear where
  start _ _ _ := by simp [Outline.newLine]
  next level _ cs cs' := by
    have hlevel : Outline.newLine (level + 1) = Outline.newLine level ++ List.replicate 4 ' ' := by
      rw [Outline.newLine, Outline.newLine, List.cons_append, List.replicate_append_replicate,
        Nat.mul_add]
    simp [hlevel, List.replicate_succ]

end Layout

end WebExtract.Text
