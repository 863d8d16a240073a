import WebExtract.Http.Client
import WebExtract.Url.Reader

/-!
# A client without a network

`Client.offline` is a client on a machine that reaches no host. It tells addresses that cannot be
read from those that cannot be requested and from those where nobody answers. An address is reported
in its normal form without credentials.
-/
namespace WebExtract.Http

/-- Longest address that a request can carry. -/
def longestAddress : Nat := 65534

/-- Characters of host names that a request cannot carry. -/
def isUnsendable (c : Char) : Bool := c = '"' || c = '`' || c = '\x7b' || c = '\x7d'

def isRequestable (url : Url) : Bool :=
  (url.scheme = "http" || url.scheme = "https") && url.render.length ≤ longestAddress &&
    !(url.host?.getD "").toList.any isUnsendable

/-- What a client without a network says to a request for an address. -/
def refusal (url : String) : String :=
  match (Url.parse? url).map Url.withoutCredentials with
  | none => "builder error"
  | some u =>
    if isRequestable u then "error sending request for url (" ++ u.render ++ ")"
    else "builder error for url (" ++ u.render ++ ")"

def Client.offline : Client := ⟨fun url => .error ⟨refusal url⟩⟩

end WebExtract.Http
