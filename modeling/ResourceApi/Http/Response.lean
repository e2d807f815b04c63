import ResourceApi.Http.Body
import ResourceApi.Http.Headers
import ResourceApi.Http.Status

/-!
# Responses

A status, header fields and a body. Whatever carries a document says so in its content type, and every response
repeats the id that its request was given.
-/

namespace ResourceApi

/-- A response. -/
structure Response where
  status : Status
  headers : Headers
  body : Body

namespace Response

/-- The content type of documents. -/
def documentType : Bytes :=
  Utf8.encode "application/vnd.api+json"

/-- The header field that holds the id of the request. -/
def requestIdField : String := "x-request-id"

/-- A response that carries a document. -/
def ofDocument (status : Status) (document : Bytes) (requestId : String) : Response where
  status := status
  headers := (Headers.empty.set "content-type" documentType).setText requestIdField requestId
  body := ⟨document⟩

/-- A response without a body. -/
def bare (status : Status) (requestId : String) : Response where
  status := status
  headers := Headers.empty.setText requestIdField requestId
  body := Body.empty

/-- Give a response the id of its request unless it has one. -/
def identify (r : Response) (requestId : String) : Response :=
  if r.headers.has requestIdField then r else { r with headers := r.headers.setText requestIdField requestId }

/-- Put a header field in the place of all of its name. -/
def setHeader (r : Response) (name : String) (value : Bytes) : Response :=
  { r with headers := r.headers.set name value }

/-- Give a response what all responses carry: the id of the request, the name of the server, and leave for pages of
any origin to read it. -/
def finish (r : Response) (requestId : String) : Response :=
  ((r.identify requestId).setHeader "server" (Utf8.encode "Soyfr")).setHeader "access-control-allow-origin"
    (Utf8.encode "*")

end Response

end ResourceApi
