/-!
# Components of a selector text

A text is a list of components: tokens, and blocks and functions with the components inside them. A
block that the text ends in is closed there.
-/
namespace WebExtract.Css

/-- Signs between an attribute and a value. -/
inductive MatchSign
  | includes | dash | start | finish | within
  deriving DecidableEq, Repr

inductive Token
  | blank
  | ident (name : String)
  | function (name : String)
  /-- A hash whose name is an identifier. -/
  | idHash (name : String)
  | string (value : String)
  | delim (c : Char)
  | colon
  | comma
  | sign (s : MatchSign)
  /-- A number: whether it has a sign, and its value if it is whole. -/
  | number (signed : Bool) (value : Option Int)
  | dimension (signed : Bool) (value : Option Int) (unit : String)
  | opening (bracket : Char)
  | closing (bracket : Char)
  /-- A broken string or address. -/
  | broken
  /-- A token that no selector has. -/
  | other
  deriving DecidableEq, Repr

inductive Component
  | token (t : Token)
  | function (name : String) (arguments : List Component)
  | block (bracket : Char) (contents : List Component)

namespace Component

def closingOf : Char → Char
  | '(' => ')'
  | '[' => ']'
  | c => if c = '\x7b' then '\x7d' else c

/-- An open function or block: its closing bracket, how it is completed, and what was read before
it, the latest first. -/
structure Open where
  close : Char
  complete : List Component → Component
  before : List Component

/-- The open functions and blocks, the innermost first, and what was read since the last opening,
the latest first. -/
structure Reading where
  outer : List Open
  done : List Component

/-- A closing bracket that does not fit the innermost block is a token like any other. -/
def Reading.add (r : Reading) (t : Token) : Reading :=
  match t with
  | .function name => ⟨⟨')', .function name, r.done⟩ :: r.outer, []⟩
  | .opening c => ⟨⟨closingOf c, .block c, r.done⟩ :: r.outer, []⟩
  | .closing c =>
    match r.outer with
    | o :: outer =>
      if o.close = c then ⟨outer, o.complete r.done.reverse :: o.before⟩
      else { r with done := .token t :: r.done }
    | [] => { r with done := .token t :: r.done }
  | t => { r with done := .token t :: r.done }

/-- The end of the text closes all that is open. -/
def closeAll : List Open → List Component → List Component
  | [], done => done.reverse
  | o :: outer, done => closeAll outer (o.complete done.reverse :: o.before)

def ofTokens (tokens : List Token) : List Component :=
  let r := tokens.foldl Reading.add ⟨[], []⟩
  closeAll r.outer r.done

mutual

/-- Whether a broken string, a broken address or a stray closing bracket is inside. -/
def hasError : Component → Bool
  | .token (.closing _) => true
  | .token .broken => true
  | .token _ => false
  | .function _ cs => anyError cs
  | .block _ cs => anyError cs

def anyError : List Component → Bool
  | [] => false
  | c :: cs => c.hasError || anyError cs

end

end Component

end WebExtract.Css
