import WebExtract.Entries
import WebExtract.Json.Binary64
import WebExtract.Json.Basic
import WebExtract.Json.Printer
import WebExtract.Json.Reader
import WebExtract.Text.Ascii
import WebExtract.Text.Blank
import WebExtract.Text.CodeRanges
import WebExtract.Text.Printable
import WebExtract.Text.Quoted
import WebExtract.Text.Utf8
import WebExtract.Dom.Tree
import WebExtract.Dom.Place
import WebExtract.Dom.Store
import WebExtract.Html.Chars
import WebExtract.Html.Entity
import WebExtract.Html.CharRef
import WebExtract.Html.Token
import WebExtract.Html.Scan
import WebExtract.Html.Vocabulary
import WebExtract.Html.Builder
import WebExtract.Html.Formatting
import WebExtract.Html.Rules
import WebExtract.Html.Page
import WebExtract.Css.Component
import WebExtract.Css.Lexer
import WebExtract.Css.Selector
import WebExtract.Css.Parser
import WebExtract.Css.Match
import WebExtract.Event
import WebExtract.Logged
import WebExtract.Error
import WebExtract.Document
import WebExtract.Schema.Basic
import WebExtract.Schema.OfJson
import WebExtract.Text.Outline
import WebExtract.Schema.Outline
import WebExtract.Extract
import WebExtract.Json.Skip
import WebExtract.Options
import WebExtract.Url.Percent
import WebExtract.Url.Punycode
import WebExtract.Text.CodeMap
import WebExtract.Text.Combining
import WebExtract.Text.Composition
import WebExtract.Text.Direction
import WebExtract.Text.Joining
import WebExtract.Url.DomainMapping
import WebExtract.Url.Domain
import WebExtract.Url.Host
import WebExtract.Url.Path
import WebExtract.Url.Basic
import WebExtract.Url.Reader
import WebExtract.Location
import WebExtract.Http.Client
import WebExtract.Http.Offline
import WebExtract.Page
import WebExtract.Proofs.Reader
import WebExtract.Proofs.Json.Fuel
import WebExtract.Proofs.Css.Fuel
import WebExtract.Proofs.Html.Fuel
import WebExtract.Proofs.Schema.Reading
import WebExtract.Proofs.Schema.Constructible
import WebExtract.Proofs.Run
import WebExtract.Proofs.Extract.Shape
import WebExtract.Proofs.Extract.Calls
import WebExtract.Proofs.Extract.Results
import WebExtract.Proofs.Extract.Path
import WebExtract.Proofs.Css.Scope
import WebExtract.Proofs.Document.Queries
import WebExtract.Proofs.Document.Within
import WebExtract.Proofs.Extract.Texts
import WebExtract.Proofs.Schema.Canonical
import WebExtract.Proofs.Document.Below
import WebExtract.Proofs.Dom.Places
import WebExtract.Proofs.Dom.Links
import WebExtract.Proofs.Html.Builder
import WebExtract.Proofs.Html.Rules
import WebExtract.Proofs.Html.Handling
import WebExtract.Proofs.Document.Creation
import WebExtract.Proofs.Entries
import WebExtract.Proofs.Schema.Builder
import WebExtract.Proofs.Extract.Fields
import WebExtract.Proofs.Http.Following
import WebExtract.Proofs.Page.Scrape
import WebExtract.Proofs.Page.Reuse
import WebExtract.Proofs.Schema.OrderedMap
import WebExtract.Proofs.Schema.Reports
import WebExtract.Proofs.Schema.ReportPaths
import WebExtract.Proofs.Extract.Evaluations
import WebExtract.Proofs.Extract.Unreadable
import WebExtract.Proofs.Extract.StandIn
import WebExtract.Proofs.Text.Quoted
import WebExtract.Proofs.Text.Layout
import WebExtract.Proofs.Schema.Outline
