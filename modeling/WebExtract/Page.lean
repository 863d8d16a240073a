import WebExtract.Extract
import WebExtract.Http.Client
import WebExtract.Location
import WebExtract.Options

/-!
# Pages

A page is a document with the address it was asked for at. `scrape` loads a page and extracts from
it at once; a page that is loaded can be used for several extractions.
-/
namespace WebExtract

open Http

variable {σ : Type}

/-- The text of the page at an address. Answers that are no success are errors, with the address as
it was given, and then the body is not asked for.
mirrors fetch:13-28 (`fetch`) -/
def fetch (c : Client) (url : String) : Run σ ScrapeError String := do
  Run.emit (.fetching url)
  let r ← Run.ofExcept ((c.get url).mapError .request)
  if r.isSuccess then
    let text ← Run.ofExcept (r.text.mapError .request)
    Run.emit (.fetched url r.status text.utf8ByteSize)
    return text
  else Run.fail (.status url r.status)

/-- mirrors lib:33-36 (`Page`) -/
structure Page where
  location : Location
  document : Document

namespace Page

/-- The page at an address.
mirrors lib:39-45 (`Page::load`) -/
def load (c : Client) (url : String) : Run σ ScrapeError Page := do
  return ⟨.of url, .parse (← fetch c url)⟩

/-- mirrors lib:47-49 (`Page::extract`) -/
def extract (p : Page) (s : Schema σ) : Run σ ScrapeError Json := s.extract p.document

end Page

/-- Loads the page at an address with a client, and extracts what the schema describes.
mirrors lib:58-73 (`scrape_with_client`) -/
def scrapeWith (c : Client) (url : String) (s : Schema σ) (o : Options) :
    Run σ ScrapeError Json := do
  Run.emit (.scrape url)
  if o.js then Run.emit .scriptsIgnored
  let page ← Page.load c url
  page.extract s

/-- Does so with `usual`, the client with the default settings, which is set up for the purpose.
mirrors lib:53-55 (`scrape`) -/
def scrape (usual : Client) (url : String) (s : Schema σ) (o : Options) :
    Run σ ScrapeError Json :=
  scrapeWith usual url s o

end WebExtract
