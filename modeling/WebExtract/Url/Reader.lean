import WebExtract.Url.Basic

/-!
# Reading addresses

`Url.parse?` reads an address that stands alone.

* Controls and spaces at the ends of the text are dropped, and tabs and line breaks everywhere.
* In addresses of well-known schemes a backslash is as good as a slash, and any number of slashes
  may stand before the authority.
* A text that holds no address gives none.
-/
namespace WebExtract.Url

open Text (isAlpha isAlnum isDigit)

/-! ## Dividing the text -/

def isOuter (c : Char) : Bool := c.toNat ≤ 0x20

def isPassedOver (c : Char) : Bool := c = '\t' || c = '\n' || c = '\r'

/-- The characters that count. -/
def clean (cs : List Char) : List Char :=
  ((cs.dropWhile isOuter).reverse.dropWhile isOuter).reverse.filter (!isPassedOver ·)

/-- The text before the first `mark`, and what follows it. -/
def cut (mark : Char) (cs : List Char) : List Char × Option (List Char) :=
  match cs.dropWhile (· ≠ mark) with
  | [] => (cs, none)
  | _ :: rest => (cs.takeWhile (· ≠ mark), some rest)

def isSchemeChar (c : Char) : Bool := isAlnum c || c = '+' || c = '-' || c = '.'

/-- The scheme at the front, in small letters, and the text after its colon. -/
def scheme? (cs : List Char) : Option (String × List Char) :=
  match cs.head?, cs.dropWhile isSchemeChar with
  | some c, ':' :: rest =>
    if isAlpha c then
      some (String.ofList ((cs.takeWhile isSchemeChar).map Char.toLower), rest)
    else none
  | _, _ => none

/-- An address without its scheme: what stands before the query, the query and the fragment. -/
structure Division where
  body : List Char
  query : Option (List Char)
  fragment : Option (List Char)

def divide (cs : List Char) : Division :=
  let (cs, fragment) := cut '#' cs
  let (body, query) := cut '?' cs
  ⟨body, query, fragment⟩

def encodeQuery (scheme : String) (cs : List Char) : String :=
  String.ofList
    (Percent.encode (if isSpecial scheme then Percent.inSpecialQuery else Percent.inQuery) cs)

def encodeFragment (cs : List Char) : String :=
  String.ofList (Percent.encode Percent.inFragment cs)

/-- The address with these parts before the query. -/
def Division.finish (d : Division) (scheme : String) (authority : Option Authority) (path : Path) :
    Url :=
  ⟨scheme, authority, path, d.query.map (encodeQuery scheme), d.fragment.map encodeFragment⟩

/-- Whether the text goes on after the body. -/
def Division.goesOn (d : Division) : Bool := d.query.isSome || d.fragment.isSome

/-! ## The authority -/

/-- The user and password before the last `@`, and the text after it. -/
def credentials (cs : List Char) : Option (List Char) × List Char :=
  let rest := (cs.reverse.takeWhile (· ≠ '@')).reverse
  if rest.length = cs.length then (none, cs)
  else (some (cs.take (cs.length - rest.length - 1)), rest)

/-- The host, and the text from the colon after it on; colons within brackets belong to it. -/
def hostText (inBrackets : Bool) : List Char → List Char × List Char
  | [] => ([], [])
  | c :: cs =>
    if c = ':' ∧ ¬inBrackets then ([], c :: cs)
    else
      let (host, rest) := hostText (c = '[' || (inBrackets && c ≠ ']')) cs
      (c :: host, rest)

/-- The port at the front, none if it is the usual one, and the text after it, which is empty or
begins with a backslash. -/
def port? (usual : Option Nat) (cs : List Char) : Option (Option Nat × List Char) :=
  let ds := cs.takeWhile isDigit
  let rest := cs.dropWhile isDigit
  let n := Text.number 10 ds
  if (rest.isEmpty || rest.head? = some '\\') && n < 65536 then
    some (if ds.isEmpty ∨ usual = some n then none else some n, rest)
  else none

/-- The authority that a text holds, and what is left of it for the path. `last` tells that the
address ends with the text. -/
def authority? (scheme : String) (last : Bool) (cs : List Char) :
    Option (Authority × List Char) := do
  let (before, rest) := credentials cs
  if before = some [] ∧ rest = [] ∧ ¬last then none
  else
    let (user, password) := cut ':' (before.getD [])
    let encode (cs : List Char) : String := String.ofList (Percent.encode Percent.inCredentials cs)
    let user := encode user
    let password := encode (password.getD [])
    let (name, rest) := hostText false rest
    let host ← if isSpecial scheme then Host.ofDomain? name else Host.ofName? name
    if name.isEmpty ∧ (!rest.isEmpty ∨ user ≠ "" ∨ password ≠ "") then none
    else
      let (port, rest) ← port? (usualPort? scheme) (rest.drop 1)
      return (⟨user, password, host, port⟩, rest)

/-! ## Absolute addresses -/

def isSlash (special : Bool) (c : Char) : Bool := c = '/' || (special && c = '\\')

def segments (special : Bool) (cs : List Char) : List String :=
  Path.resolve [] (cs.splitOnP (isSlash special))

/-- The segments of a path that may begin with a slash. -/
def pathSegments (special : Bool) (cs : List Char) : List String :=
  match cs with
  | [] => if special then [""] else []
  | c :: rest => segments special (if isSlash special c then rest else cs)

/-- How many slashes are at the front. -/
def slashes (special : Bool) (cs : List Char) : Nat := (cs.takeWhile (isSlash special)).length

def withAuthority? (scheme : String) (d : Division) (cs : List Char) : Option Url := do
  let special := isSpecial scheme
  let path := cs.dropWhile (!isSlash special ·)
  let (authority, rest) ←
    authority? scheme (path.isEmpty && !d.goesOn) (cs.takeWhile (!isSlash special ·))
  return d.finish scheme (some authority) (.segments (pathSegments special (rest ++ path)))

def noHost : Authority := ⟨"", "", .name "", none⟩

/-- The host of a file; the host called `localhost` counts as none. -/
def fileHost? (cs : List Char) : Option Authority :=
  if cs.isEmpty then some noHost
  else
    (Host.ofDomain? cs).map fun h =>
      { noHost with host := if h = .name "localhost" then .name "" else h }

/-- An address of a file. Behind two slashes comes a host, unless a drive does. -/
def file? (d : Division) : Option Url :=
  let path (cs : List Char) : Path := .ofFile (pathSegments true cs)
  if 2 ≤ slashes true d.body then do
    let cs := d.body.drop 2
    let name := cs.takeWhile (!isSlash true ·)
    if name.length = 2 ∧ Path.isDrive name then
      return d.finish "file" (some noHost) (path cs)
    else
      let authority ← fileHost? name
      return d.finish "file" (some authority) (path (cs.drop name.length))
  else some (d.finish "file" (some noHost) (path d.body))

/-- The address with this scheme and this text after the colon. -/
def absolute? (scheme : String) (d : Division) : Option Url :=
  if scheme = "file" then file? d
  else if isSpecial scheme then withAuthority? scheme d (d.body.dropWhile (isSlash true))
  else
    match d.body with
    | '/' :: '/' :: cs => withAuthority? scheme d cs
    | '/' :: cs => some (d.finish scheme none (.segments (segments false cs)))
    | cs =>
      some (d.finish scheme none (.text (String.ofList (Percent.encode Percent.inNone cs))))

/-- The address that a text holds. -/
def parse? (text : String) : Option Url := do
  let (scheme, rest) ← scheme? (clean text.toList)
  absolute? scheme (divide rest)

end WebExtract.Url
