import HttpsServerSim.Protocol.Types

/-!
# HTTP messages
-/

namespace HttpsServerSim

/-- `HttpRequest`; the defaults are those of the constructor and of `reset()`. -/
structure HttpRequest where
  method : Bytes := []
  path : Bytes := []
  version : Bytes := ascii "HTTP/1.1"
  headers : HttpHeaders := ∅
  body : Bytes := []
  contentLength : ℕ := 0
  debugToken : Bytes := []
deriving DecidableEq

/-- `HttpResponse`; the defaults are those of the constructor and of `reset()`. -/
structure HttpResponse where
  statusCode : Int32 := 200
  statusText : Bytes := ascii "OK"
  headers : HttpHeaders := ∅
  body : Bytes := []
deriving DecidableEq

namespace HttpResponse

def addHeader (response : HttpResponse) (name value : Bytes) : HttpResponse :=
  { response with headers := response.headers.insert name value }

def setBody (response : HttpResponse) (bytes : Bytes) : HttpResponse :=
  { response with body := bytes }

end HttpResponse

end HttpsServerSim
