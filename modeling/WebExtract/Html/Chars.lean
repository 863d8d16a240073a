import WebExtract.Text.Ascii

/-!
# Blanks in a page
-/
namespace WebExtract.Html

/-- Tab, newline, form feed, carriage return and space. -/
def isHtmlBlank (c : Char) : Bool :=
  c = ' ' || c = '\n' || c = '\t' || c = '\x0c' || c = '\r'

end WebExtract.Html
