import WebExtract.Schema.Basic
import WebExtract.Text.Outline

/-!
# Schemas as text

What a schema looks like, for people: on one line or on several. Functions have no look of their
own. Mirrors the debug texts of schema:125-143 and schema:164 (`SchemaNode`, `Schema`).
-/
namespace WebExtract

open Text

variable {σ : Type}

def contextOutline (context : Option String) : Outline := .option (context.map .quoted)

mutual

def Schema.outline : Schema σ → Outline
  | .mk fields => .record "Schema" [("fields", .list (Schema.outlineFields fields))]

def Schema.outlineFields : List (String × Node σ) → List Outline
  | [] => []
  | (key, node) :: fields => .tuple "" [.quoted key, node.outline] :: Schema.outlineFields fields

def Node.outline : Node σ → Outline
  | .selector s => .tuple "Selector" [.quoted s]
  | .textList s context =>
    .record "TextList" [("selector", .quoted s), ("context", contextOutline context)]
  | .list item context =>
    .record "List" [("item", item.outline), ("context", contextOutline context)]
  | .computed _ => .word "Computed(<fn>)"
  | .nested schema => .tuple "Nested" [schema.outline]

end

def Schema.line (s : Schema σ) : String := String.ofList s.outline.line

def Schema.lines (s : Schema σ) : String := String.ofList (s.outline.lines 0)

def Node.line (n : Node σ) : String := String.ofList n.outline.line

end WebExtract
