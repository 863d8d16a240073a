import WebExtract.Schema.Basic

/-!
# Extraction

Walks a schema over a document and makes an object with exactly the schema's keys, in its order: the
values are put into an ordered map one after the other. Selectors are evaluated in the context; a
list rebinds the context to each of its matches. Only a computed field can fail, and its failure
ends the extraction.
-/
namespace WebExtract

variable {σ : Type}

/-- An empty text counts as none.
mirrors interpreter:45-48 (`interpret_node`, a selector) -/
def textOrNull : Option String → Json
  | some text => if text = "" then .null else .string text
  | none => .null

/-- The matches of a context selector; without one there are none. -/
def Document.queryContext (d : Document) (context : Option String) (c : Context) :
    Logged (List Dom.Place) :=
  match context with
  | some scope => d.query scope c
  | none => return []

@[simp] theorem Document.value_queryContext_some (d : Document) (scope : String) (c : Context) :
    (d.queryContext (some scope) c).value = d.find scope c := d.value_query scope c

@[simp] theorem Document.value_queryContext_none (d : Document) (c : Context) :
    (d.queryContext none c).value = [] := rfl

/-- The texts that a text list asks for. -/
def Document.listTexts (d : Document) (selector : String) (context : Option String)
    (c : Context) : Logged (List String) :=
  match context with
  | some scope => d.textsWithin selector scope c
  | none => do return (← d.query selector c).map textOf

mutual

/-- The object that a schema describes in a context.
mirrors interpreter:21-35 (`interpret_in`) -/
def Schema.extractIn (d : Document) : Schema σ → Context → Run σ ScrapeError Json
  | .mk fields, c => do return .object (Entries.ofList (← Schema.extractFields d fields c))

/-- The fields' values under their keys, in order. -/
def Schema.extractFields (d : Document) :
    List (String × Node σ) → Context → Run σ ScrapeError (List (String × Json))
  | [], _ => return []
  | (key, node) :: fields, c => do
    Run.emit (.field key)
    let value ← node.extract d key c
    let rest ← Schema.extractFields d fields c
    return (key, value) :: rest

/-- The value of the node under a key.
mirrors interpreter:37-82 (`interpret_node`) -/
def Node.extract (d : Document) (key : String) : Node σ → Context → Run σ ScrapeError Json
  | .selector s, c => do return textOrNull (← Run.ofLogged (d.firstText s c))
  | .textList s context, c => do return .strings (← Run.ofLogged (d.listTexts s context c))
  | .list item context, c => do
    let elements ← Run.ofLogged (d.queryContext context c)
    return .array (← elements.mapM fun e => item.extractIn d (.node e))
  | .computed f, c => (f d c).mapError (.computed key)
  | .nested schema, c => schema.extractIn d c

end

/-- The object that a schema describes in the whole document.
mirrors interpreter:14-16 (`interpret`) -/
def Schema.extract (s : Schema σ) (d : Document) : Run σ ScrapeError Json :=
  s.extractIn d .document

end WebExtract
