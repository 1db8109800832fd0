import Sidecar.Http

/-!
# The liveness endpoint

While the host runs it may serve a page that says so.  A `Route` is a page that a server has at one
path; `Route.answer` is what it answers to a request.
-/

namespace Sidecar.Http

/-- What a server answers. -/
structure Answer where
  status : Nat
  contentType : Option String
  body : String
  deriving DecidableEq, Repr

/-- A page at a path. -/
structure Route where
  path : String
  contentType : String
  body : String
  deriving DecidableEq, Repr

/-- The path of an address without its query. -/
def pathOf (uri : Uri) : String :=
  String.ofList (uri.path.toList.takeWhile (· != '?'))

/-- The answer to a request: the page can be fetched, or asked for without its body; other methods
are refused, other paths not found. -/
def Route.answer (r : Route) (method : String) (uri : Uri) : Answer :=
  if pathOf uri ≠ r.path then { status := 404, contentType := none, body := "" }
  else if method = "GET" then { status := 200, contentType := some r.contentType, body := r.body }
  else if method = "HEAD" then { status := 200, contentType := some r.contentType, body := "" }
  else { status := 405, contentType := none, body := "" }

end Sidecar.Http

namespace Sidecar.Host

/-- The page that says that the host runs. -/
def liveness : Http.Route :=
  { path := "/healthz", contentType := "text/plain; charset=utf-8", body := "OK" }

end Sidecar.Host
