import WebExtract.Url.Reader

/-!
# Where a document came from

A location keeps the address as it was given. Host and path are those of the address, if it is one.
-/
namespace WebExtract

/-- mirrors fetch:32-37 (`Location`) -/
structure Location where
  href : String
  host : Option String
  path : Option String
  deriving DecidableEq, Repr

/-- mirrors fetch:40-53 (`Location::new`) -/
def Location.of (href : String) : Location :=
  let url := Url.parse? href
  ⟨href, url.bind Url.host?, url.map (·.path.render)⟩

end WebExtract
