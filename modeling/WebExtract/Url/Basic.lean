import WebExtract.Url.Host
import WebExtract.Url.Path

/-!
# Addresses of pages

An address is kept in its normal form: parts are percent-coded where they must be, names of domains
are in ASCII, a port is written only if it is not the usual one of the scheme.
-/
namespace WebExtract

structure Url.Authority where
  user : String
  password : String
  host : Url.Host
  port : Option Nat
  deriving DecidableEq, Repr

structure Url where
  scheme : String
  authority : Option Url.Authority
  path : Url.Path
  query : Option String
  fragment : Option String
  deriving DecidableEq, Repr

namespace Url

/-- The well-known schemes with their usual ports. -/
def wellKnown : List (String × Option Nat) :=
  [("http", some 80), ("https", some 443), ("ws", some 80), ("wss", some 443), ("ftp", some 21),
   ("file", none)]

/-- Addresses of these schemes always have an authority and segments. -/
def isSpecial (scheme : String) : Bool := wellKnown.any (·.1 = scheme)

def usualPort? (scheme : String) : Option Nat :=
  (wellKnown.find? (·.1 = scheme)).bind (·.2)

/-- The host as text, if there is one. -/
def host? (u : Url) : Option String :=
  match u.authority with
  | some a => if a.host = .name "" then none else some a.host.render
  | none => none

def Authority.render (a : Authority) : String :=
  let password := if a.password = "" then "" else ":" ++ a.password
  let credentials := if a.user = "" ∧ a.password = "" then "" else a.user ++ password ++ "@"
  let port := a.port.elim "" fun n => ":" ++ toString n
  credentials ++ a.host.render ++ port

/-- What stands before the path. A path that begins with an empty segment must not be taken for an
authority. -/
def beforePath (u : Url) : String :=
  match u.authority, u.path with
  | some a, _ => "//" ++ a.render
  | none, .segments ("" :: _ :: _) => "/."
  | none, _ => ""

def render (u : Url) : String :=
  u.scheme ++ ":" ++ u.beforePath ++ u.path.render ++ u.query.elim "" ("?" ++ ·) ++
    u.fragment.elim "" ("#" ++ ·)

def withoutCredentials (u : Url) : Url :=
  { u with authority := u.authority.map fun a => { a with user := "", password := "" } }

end Url

end WebExtract
