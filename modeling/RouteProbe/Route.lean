import RouteProbe.Text.Integer

/-!
# Routes

A collector serves routes over plain HTTP on a fixed port.  The URL of a route is
put together from a host and a path as they are: neither is checked here.
-/

namespace RouteProbe
namespace Route

/-- The port of a collector. -/
def port : Nat := 8080

/-- The profile. -/
def profile : String := "/profile"

/-- The URL of a path on a host (`build_introspection_url`). -/
def url (host path : List Char) : List Char :=
  "http://".toList ++ host ++ ':' :: Text.natText port ++ path

end Route
end RouteProbe
