import WebExtract.Error

/-!
# HTTP clients

The library requests pages through a client that its caller chose and set up. Of a client it uses
one thing: what a GET request for an address comes to in the end. Which redirections are followed
and how often, what is sent along, how a body is unpacked and decoded and how long all this may take
are the client's own affair, so a client is any function of this kind. In particular each network
with each policy for redirections makes one.
-/
namespace WebExtract.Http

/-- The response that a request ended in, after the redirections that the client followed. -/
structure Response where
  status : Nat
  /-- The body as text, or why it cannot be received or decoded. -/
  text : Except RequestError String

/-- Exactly the statuses from 200 to 299 are a success. -/
def Response.isSuccess (r : Response) : Bool := 200 ≤ r.status && r.status ≤ 299

structure Client where
  /-- The final response for an address as it is given, or why there is none. -/
  get : String → Except RequestError Response

end WebExtract.Http
