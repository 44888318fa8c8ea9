import CarCatalog.Gate

/-!
# Routes

A path leads to the sign-in page, the home page, a section, or nowhere; slashes at its end do not
matter, and its query is left out.  The gates of a route decide whether its page is shown or another
path is.
-/

namespace CarCatalog

inductive Route
  | login
  | home
  | part (part : Section)
  | unknown
  deriving DecidableEq, Repr

namespace Route

/-- A path without its query and fragment. -/
def withoutQuery (path : String) : String :=
  String.ofList (path.toList.takeWhile fun c => c != '?' && c != '#')

/-- A path without slashes at its end. -/
def bare (path : String) : String :=
  String.ofList (path.toList.reverse.dropWhile (· == '/')).reverse

/-- Where one who asks for a path is taken: it starts with one slash and ends with at most one. -/
def resolve (path : String) : String :=
  let stem := path.toList.dropWhile (· == '/')
  let slashes := (stem.reverse.takeWhile (· == '/')).length - 1
  withoutQuery (String.ofList ('/' :: stem.take (stem.length - slashes)))

def ofPath (path : String) : Route :=
  let path := bare path
  if path.isEmpty then .home
  else if path = loginPath then .login
  else
    match Section.ofPath? path with
    | some p => .part p
    | none => .unknown

/-- The gates on the way to a route's page, the outer one first. -/
def gates (r : Route) (s : Session) : List ViewGate :=
  match r with
  | .login => [s.loginGate]
  | .home => [s.layoutGate.asView, s.indexGate]
  | .part p => [s.layoutGate.asView, s.sectionGate p]
  | .unknown => []

/-- Where the gates of a path send the user, if they do. -/
def redirect? (s : Session) (path : String) : Option String :=
  ((ofPath path).gates s).findSome? ViewGate.target?

/-- Follows redirects, at most so many. -/
def follow (s : Session) : Nat → String → String
  | 0, path => path
  | n + 1, path =>
    match redirect? s path with
    | some next => follow s n next
    | none => path

end Route

end CarCatalog
