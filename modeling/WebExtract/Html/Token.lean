/-!
# Tokens of a page

Character data comes in runs: blanks, other text, and NUL characters one by one, because the rules
of tree construction treat the three differently.
-/
namespace WebExtract.Html

structure Tag where
  name : String
  /-- Names and values; no name occurs twice. -/
  attributes : List (String × String)
  selfClosing : Bool
  deriving DecidableEq, Repr

/-- The value of an attribute. -/
def Tag.attribute? (t : Tag) (name : String) : Option String :=
  (t.attributes.find? fun a => a.1 = name).map Prod.snd

structure Doctype where
  name : Option String
  publicId : Option String
  systemId : Option String
  /-- The declaration is broken. -/
  broken : Bool
  deriving DecidableEq, Repr

inductive Token
  | doctype (d : Doctype)
  | startTag (t : Tag)
  | endTag (t : Tag)
  | comment (s : String)
  | blanks (s : String)
  | text (s : String)
  | null
  /-- A fault that adds nothing to the page, but parts what comes after it from what was before. -/
  | fault
  | eof
  deriving DecidableEq, Repr

/-- How the text that follows is to be read. Inside the element `name` only its end tag is markup;
character references count in `decoded` text and not in `raw` text. -/
inductive Reading
  | markup
  | decoded (name : String)
  | raw (name : String)
  | script
  | plain
  deriving DecidableEq, Repr

end WebExtract.Html
