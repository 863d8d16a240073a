import WebExtract.Json.Printer

/-!
# Events

What the library tells an observer about its work. An event has a level, a message and named
values.
-/
namespace WebExtract

inductive Level
  | trace | debug | info | warn
  deriving DecidableEq, Repr

def Level.name : Level → String
  | .trace => "TRACE"
  | .debug => "DEBUG"
  | .info => "INFO"
  | .warn => "WARN"

inductive Event
  /-- A schema value that is no selector, list or object. -/
  | oddValue (path : String) (value : Json)
  /-- The second element of a list is no selector. -/
  | oddContext (path : String) (value : Json)
  | field (key : String)
  /-- A selector that cannot be read. The program also says why, in a field `error`, in the words of
  its CSS parser; these are left out. -/
  | unreadableSelector (selector : String)
  | fetching (url : String)
  | fetched (url : String) (status bytes : Nat)
  | scriptsIgnored
  /-- The beginning of a scrape. -/
  | scrape (href : String)
  deriving Repr

namespace Event

def level : Event → Level
  | .oddValue _ _ => .warn
  | .oddContext _ _ => .warn
  | .field _ => .trace
  | .unreadableSelector _ => .debug
  | .fetching _ => .debug
  | .fetched _ _ _ => .debug
  | .scriptsIgnored => .warn
  | .scrape _ => .info

def message : Event → String
  | .oddValue _ _ => "schema value is not a selector, list or object; yielding an empty object"
  | .oddContext _ _ => "list context is not a selector string, ignoring it"
  | .field _ => "interpreting field"
  | .unreadableSelector _ => "selector did not parse, treating as no match"
  | .fetching _ => "fetching document"
  | .fetched _ _ _ => "fetched document"
  | .scriptsIgnored =>
    "client-side script execution is not supported, querying the served document"
  | .scrape _ => "span scrape"

/-- The named values, in order. -/
def values : Event → List (String × Json)
  | .oddValue path v => [("path", .string path), ("value", .string v.render)]
  | .oddContext path v => [("path", .string path), ("value", .string v.render)]
  | .field key => [("key", .string key)]
  | .unreadableSelector s => [("selector", .string s)]
  | .fetching url => [("url", .string url)]
  | .fetched url status bytes =>
    [("url", .string url), ("status", .nat status), ("bytes", .nat bytes)]
  | .scriptsIgnored => []
  | .scrape href => [("href", .string href)]

end Event

end WebExtract
