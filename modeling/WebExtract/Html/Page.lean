import WebExtract.Html.Rules
import WebExtract.Html.Scan

/-!
# Reading a page

The text of a page is read token by token; what a token does to the tree decides how the text after
it is read.
-/
namespace WebExtract.Html

open WebExtract.Dom

/-- Carriage returns, alone or before a newline, become newlines. -/
def unifyNewlines : List Char → List Char
  | [] => []
  | '\r' :: '\n' :: cs => '\n' :: unifyNewlines cs
  | '\r' :: cs => '\n' :: unifyNewlines cs
  | c :: cs => c :: unifyNewlines cs

/-- A byte order mark at the front does not count. -/
def dropMark : List Char → List Char
  | '\uFEFF' :: cs => cs
  | cs => cs

/-- Whether the innermost open element is foreign. -/
def Builder.inForeign (b : Builder) : Bool :=
  (b.stack.head?.bind b.element?).any fun e => e.vocabulary ≠ .html

/-- Reads the text to its end, in at most `fuel` steps of one character or more. -/
def readTokens : (fuel : Nat) → List Char → Build Unit
  | 0, _ => return
  | _, [] => return
  | fuel + 1, cs => do
    let b ← get
    let (tokens, rest) := Scan.tokens b.reading b.inForeign cs
    modify ({ · with reading := .markup })
    tokens.forM Build.receive
    readTokens fuel rest

/-- The state after the whole page. -/
def build (page : String) : Builder :=
  let cs := unifyNewlines (dropMark page.toList)
  let read : Build Unit := do
    readTokens (cs.length + 1) cs
    Build.receive .eof
  (read.run Builder.start).2

/-- The tree of a page, and the trees that were taken out of it. -/
def trees (page : String) : Tree × List Tree := (build page).store.trees

end WebExtract.Html
