import WebExtract.Html.CharRef
import WebExtract.Html.Token

/-!
# Scanning tags, declarations and text

Each scanner takes the unread text and returns what it read and the text after it. A tag that the
text ends in is no tag at all: its scanner returns nothing.
-/
namespace WebExtract.Html.Scan

/-- A NUL has the replacement character in its place. -/
def named (cs : List Char) : String :=
  String.ofList (cs.map fun c => if c = '\x00' then Text.replacement else c)

def lowered (cs : List Char) : String := named (cs.map Char.toLower)

/-- Whether `word` is at the front, in capitals or not; `word` is in small letters. -/
def startsWithWord : (word cs : List Char) → Bool
  | [], _ => true
  | _ :: _, [] => false
  | w :: ws, c :: cs => c.toLower = w && startsWithWord ws cs

/-- Whether a text that ends with a name in a tag goes on as a tag does. -/
def endsName : List Char → Bool
  | c :: _ => isHtmlBlank c || c = '/' || c = '>'
  | [] => false

/-! ## Text -/

/-- Text up to where `stop` holds of what is left, character references decoded and `nul` put for
each NUL. The first `skip` characters belong to a reference that has been decoded. -/
def decodedText (inAttribute : Bool) (stop : List Char → Bool) (nul : Char) :
    (skip : Nat) → List Char → List Char × List Char
  | _, [] => ([], [])
  | skip + 1, _ :: cs => decodedText inAttribute stop nul skip cs
  | 0, c :: cs =>
    if stop (c :: cs) then ([], c :: cs)
    else if c = '&' then
      match CharRef.scan inAttribute cs with
      | some (value, rest) =>
        let (text, rest) := decodedText inAttribute stop nul (cs.length - rest.length) cs
        (value ++ text, rest)
      | none =>
        let (text, rest) := decodedText inAttribute stop nul 0 cs
        ('&' :: text, rest)
    else
      let (text, rest) := decodedText inAttribute stop nul 0 cs
      ((if c = '\x00' then nul else c) :: text, rest)

/-- Text as it stands up to where `stop` holds of what is left. -/
def rawText (stop : List Char → Bool) : List Char → List Char × List Char
  | [] => ([], [])
  | c :: cs =>
    if stop (c :: cs) then ([], c :: cs)
    else
      let (text, rest) := rawText stop cs
      ((if c = '\x00' then Text.replacement else c) :: text, rest)

/-- Whether the end tag of `name` is at the front. -/
def atEndTag (name : List Char) : List Char → Bool
  | '<' :: '/' :: cs => startsWithWord name cs && endsName (cs.drop name.length)
  | _ => false

/-- Where a script is: outside comments, in a comment, or in a script element within a comment;
with the number of dashes just read. -/
inductive ScriptState
  | outside
  | inComment (dashes : Nat)
  | inScript (dashes : Nat)

def scriptName : List Char := ['s', 'c', 'r', 'i', 'p', 't']

/-- Whether a start tag of a script is at the front. -/
def atScriptTag : List Char → Bool
  | '<' :: cs => startsWithWord scriptName cs && endsName (cs.drop scriptName.length)
  | _ => false

/-- The state after the first character of a text, and whether the script ends before it. -/
def ScriptState.step (cs : List Char) : ScriptState → Option ScriptState
  | .outside =>
    if atEndTag scriptName cs then none
    else if ['<', '!', '-', '-'].isPrefixOf cs then some (.inComment 0)
    else some .outside
  | .inComment dashes =>
    match cs with
    | '-' :: _ => some (.inComment (dashes + 1))
    | '>' :: _ => some (if 2 ≤ dashes then .outside else .inComment 0)
    | _ =>
      if atEndTag scriptName cs then none
      else if atScriptTag cs then some (.inScript 0)
      else some (.inComment 0)
  | .inScript dashes =>
    match cs with
    | '-' :: _ => some (.inScript (dashes + 1))
    | '>' :: _ => some (if 2 ≤ dashes then .outside else .inScript 0)
    | _ => some (if atEndTag scriptName cs then .inComment 0 else .inScript 0)

/-- The text of a script up to its end tag. -/
def scriptText (state : ScriptState) : List Char → List Char × List Char
  | [] => ([], [])
  | c :: cs =>
    match state.step (c :: cs) with
    | none => ([], c :: cs)
    | some state =>
      let (text, rest) := scriptText state cs
      ((if c = '\x00' then Text.replacement else c) :: text, rest)

/-! ## Tags -/

/-- The value of an attribute, after the equals sign and blanks. -/
def attributeValue (cs : List Char) : Option (List Char × List Char) :=
  match cs with
  | [] => none
  | '>' :: _ => some ([], cs)
  | c :: rest =>
    if c = '"' ∨ c = '\'' then
      match decodedText true (fun cs => cs.head? = some c) Text.replacement 0 rest with
      | (value, _ :: rest) => some (value, rest)
      | (_, []) => none
    else
      some (decodedText true
        (fun cs => match cs with
          | c :: _ => isHtmlBlank c || c = '>'
          | [] => true) Text.replacement 0 cs)

def endsAttributeName (c : Char) : Bool := isHtmlBlank c || c = '/' || c = '>' || c = '='

/-- One attribute; an equals sign may be the first character of its name. -/
def oneAttribute (c : Char) (cs : List Char) : Option ((String × String) × List Char) :=
  let name := lowered (c :: cs.takeWhile fun c => !endsAttributeName c)
  let rest := (cs.dropWhile fun c => !endsAttributeName c).dropWhile isHtmlBlank
  match rest with
  | [] => none
  | '=' :: rest => do
    let (value, rest) ← attributeValue (rest.dropWhile isHtmlBlank)
    return ((name, String.ofList value), rest)
  | rest => some ((name, ""), rest)

/-- The attributes up to the end of the tag, and whether the tag closes itself. A name that was
there before is left out. Each step reads at least one character. -/
def attributes (done : List (String × String)) :
    (fuel : Nat) → List Char → Option (List (String × String) × Bool × List Char)
  | 0, _ => none
  | fuel + 1, cs =>
    match cs with
    | [] => none
    | '>' :: rest => some (done, false, rest)
    | '/' :: '>' :: rest => some (done, true, rest)
    | c :: rest =>
      if c = '/' ∨ isHtmlBlank c then attributes done fuel rest
      else
        match oneAttribute c rest with
        | none => none
        | some (a, rest) =>
          attributes (if done.any (·.1 = a.1) then done else done ++ [a]) fuel rest

/-- A tag from its name on. -/
def tag (cs : List Char) : Option (Tag × List Char) := do
  let name := lowered (cs.takeWhile fun c => !endsName [c])
  let rest := cs.dropWhile fun c => !endsName [c]
  let (attributes, selfClosing, rest) ← attributes [] (rest.length + 1) rest
  return (⟨name, attributes, selfClosing⟩, rest)

/-! ## Comments and declarations -/

/-- The text of a comment up to its end. -/
def commentBody : List Char → List Char × List Char
  | [] => ([], [])
  | '-' :: '-' :: '>' :: rest => ([], rest)
  | '-' :: '-' :: '!' :: '>' :: rest => ([], rest)
  | c :: cs =>
    let (text, rest) := commentBody cs
    (c :: text, rest)

/-- A comment, after its opening. -/
def comment : List Char → String × List Char
  | '>' :: rest => ("", rest)
  | '-' :: '>' :: rest => ("", rest)
  | cs =>
    let (text, rest) := commentBody cs
    (named text, rest)

/-- What is no declaration, tag or comment is skipped as a comment. -/
def bogusComment (cs : List Char) : String × List Char :=
  (named (cs.takeWhile (· ≠ '>')), (cs.dropWhile (· ≠ '>')).drop 1)

/-- The text of a marked section up to its end. -/
def sectionBody : List Char → List Char × List Char
  | [] => ([], [])
  | ']' :: ']' :: '>' :: rest => ([], rest)
  | c :: cs =>
    let (text, rest) := sectionBody cs
    (c :: text, rest)

/-- Skips to the end of a declaration. -/
def restOfDoctype (d : Doctype) (cs : List Char) : Doctype × List Char :=
  (d, (cs.dropWhile (· ≠ '>')).drop 1)

/-- An identifier in quotes: its text, the text after it, and whether its closing quote is there. -/
def quotedId (quote : Char) (cs : List Char) : String × List Char × Bool :=
  let isEnd (c : Char) : Bool := c = quote || c = '>'
  let id := named (cs.takeWhile fun c => !isEnd c)
  match cs.dropWhile fun c => !isEnd c with
  | [] => (id, [], false)
  | c :: rest => (id, rest, c = quote)

/-- The system identifier, which may be missing only if there was a public one. -/
def doctypeSystem (d : Doctype) (optional : Bool) (cs : List Char) : Doctype × List Char :=
  match cs.dropWhile isHtmlBlank with
  | [] => ({ d with broken := true }, [])
  | '>' :: rest => ({ d with broken := d.broken || !optional }, rest)
  | c :: cs =>
    if c = '"' ∨ c = '\'' then
      match quotedId c cs with
      | (id, rest, false) => ({ d with systemId := some id, broken := true }, rest)
      | (id, rest, true) =>
        let d := { d with systemId := some id }
        match rest.dropWhile isHtmlBlank with
        | [] => ({ d with broken := true }, [])
        | rest => restOfDoctype d rest
    else restOfDoctype { d with broken := true } (c :: cs)

def doctypePublic (d : Doctype) (cs : List Char) : Doctype × List Char :=
  match cs.dropWhile isHtmlBlank with
  | [] => ({ d with broken := true }, [])
  | '>' :: rest => ({ d with broken := true }, rest)
  | c :: cs =>
    if c = '"' ∨ c = '\'' then
      match quotedId c cs with
      | (id, rest, false) => ({ d with publicId := some id, broken := true }, rest)
      | (id, rest, true) => doctypeSystem { d with publicId := some id } true rest
    else restOfDoctype { d with broken := true } (c :: cs)

/-- A document type declaration, after its first word. -/
def doctype (cs : List Char) : Doctype × List Char :=
  match cs.dropWhile isHtmlBlank with
  | [] => (⟨none, none, none, true⟩, [])
  | '>' :: rest => (⟨none, none, none, true⟩, rest)
  | cs =>
    let isEnd (c : Char) : Bool := isHtmlBlank c || c = '>'
    let d : Doctype := ⟨some (lowered (cs.takeWhile fun c => !isEnd c)), none, none, false⟩
    match (cs.dropWhile fun c => !isEnd c).dropWhile isHtmlBlank with
    | [] => ({ d with broken := true }, [])
    | '>' :: rest => (d, rest)
    | cs =>
      if startsWithWord ['p', 'u', 'b', 'l', 'i', 'c'] cs then doctypePublic d (cs.drop 6)
      else if startsWithWord ['s', 'y', 's', 't', 'e', 'm'] cs then
        doctypeSystem d false (cs.drop 6)
      else restOfDoctype { d with broken := true } cs

/-! ## Tokens -/

/-- The tokens of a run of characters of one kind. -/
def runTokens (run : List Char) : List Token :=
  match run with
  | [] => []
  | c :: _ =>
    if c = '\x00' then run.map fun _ => .null
    else if isHtmlBlank c then [.blanks (String.ofList run)]
    else [.text (String.ofList run)]

def charKind (c : Char) : Nat := if c = '\x00' then 0 else if isHtmlBlank c then 1 else 2

/-- Characters as tokens, in runs of one kind. -/
def characters (cs : List Char) : List Token :=
  (cs.splitBy fun a b => charKind a == charKind b).flatMap runTokens

/-- The fault of a character reference at the front that lacks its semicolon. -/
def openReference : List Char → List Token
  | '&' :: cs =>
    match CharRef.scan false cs with
    | some (_, rest) =>
      if (cs.take (cs.length - rest.length)).getLast? = some ';' then [] else [.fault]
    | none => []
  | _ => []

/-- What follows `<!`. Marked sections count only inside foreign content. -/
def declaration (inForeign : Bool) (cs : List Char) : List Token × List Char :=
  match cs with
  | '-' :: '-' :: cs =>
    let (text, rest) := comment cs
    ([.comment text], rest)
  | cs =>
    if startsWithWord ['d', 'o', 'c', 't', 'y', 'p', 'e'] cs then
      let (d, rest) := doctype (cs.drop 7)
      ([.doctype d], rest)
    else if inForeign && ['[', 'C', 'D', 'A', 'T', 'A', '['].isPrefixOf cs then
      let (text, rest) := sectionBody (cs.drop 7)
      (characters text, rest)
    else
      let (text, rest) := bogusComment cs
      ([.comment text], rest)

/-- What follows `<` in markup. -/
def afterLess (inForeign : Bool) (cs : List Char) : List Token × List Char :=
  match cs with
  | '!' :: cs => declaration inForeign cs
  | '?' :: _ =>
    let (text, rest) := bogusComment cs
    ([.comment text], rest)
  | '/' :: [] => ([.text "</"], [])
  | '/' :: '>' :: rest => ([.fault], rest)
  | '/' :: c :: cs =>
    if Text.isAlpha c then
      match tag (c :: cs) with
      | some (t, rest) => ([.endTag t], rest)
      | none => ([], [])
    else
      let (text, rest) := bogusComment (c :: cs)
      ([.comment text], rest)
  | c :: rest =>
    if Text.isAlpha c then
      match tag (c :: rest) with
      | some (t, rest) => ([.startTag t], rest)
      | none => ([], [])
    else ([.text "<"], c :: rest)
  | [] => ([.text "<"], [])

/-- The text of an element and then its end tag, if it comes. -/
def textThenEnd (read : List Char × List Char) : List Token × List Char :=
  let (text, rest) := read
  match tag (rest.drop 2) with
  | some (t, rest) => (characters text ++ [.endTag t], rest)
  | none => (characters text, [])

/-- The next tokens and the text after them: one tag, comment or declaration, or a run of text.
At least one character is read. -/
def tokens (reading : Reading) (inForeign : Bool) (cs : List Char) : List Token × List Char :=
  match reading with
  | .plain => (characters (rawText (fun _ => false) cs).1, [])
  | .script => textThenEnd (scriptText .outside cs)
  | .raw name => textThenEnd (rawText (atEndTag name.toList) cs)
  | .decoded name =>
    let (tokens, rest) :=
      textThenEnd (decodedText false (atEndTag name.toList) Text.replacement 0 cs)
    (openReference cs ++ tokens, rest)
  | .markup =>
    match cs with
    | '<' :: cs => afterLess inForeign cs
    | cs =>
      let (text, rest) := decodedText false (fun cs => cs.head? = some '<') '\x00' 0 cs
      (openReference cs ++ characters text, rest)

end WebExtract.Html.Scan
