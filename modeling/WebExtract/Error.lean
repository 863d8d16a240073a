import WebExtract.Json.Reader

/-!
# Errors

A scrape fails if its page cannot be had, if the answer is not a success, or if a computed field
fails. What a selector does not find is no error.
-/
namespace WebExtract

/-- Why no schema can be made.
mirrors error:37-43 (`SchemaError`) -/
inductive SchemaError
  | notAnObject (found : String)
  | json (e : Json.ReadError)
  deriving DecidableEq, Repr

def SchemaError.message : SchemaError → String
  | .notAnObject found => "schema must be a JSON object, found " ++ found
  | .json e => "invalid schema JSON: " ++ e.message

/-- Why a request brought no page, in the words of the client that made it. -/
structure RequestError where
  message : String
  deriving DecidableEq, Repr

mutual

/-- mirrors error:14-33 (`ScrapeError`) -/
inductive ScrapeError
  | request (e : RequestError)
  | status (url : String) (status : Nat)
  | computed (key : String) (source : Cause)
  | schema (e : SchemaError)

/-- Why a computed field failed: a message of its own, or an error of the library passed on. -/
inductive Cause
  | message (text : String)
  | error (e : ScrapeError)

end

mutual

def ScrapeError.message : ScrapeError → String
  | .request e => "request failed: " ++ e.message
  | .status url status => "GET " ++ url ++ " returned HTTP " ++ toString status
  | .computed key source => "computed field `" ++ key ++ "` failed: " ++ source.text
  | .schema e => e.message

def Cause.text : Cause → String
  | .message text => text
  | .error e => e.message

end

end WebExtract
