import Teardown.Text.Percent

/-!
# Requests and routes

A request names a method, a path and a query. Its target is split at the first question mark, and
its path is decoded. Four paths are known, each for one method:

* `/` describes the service,
* `/health` reports its health,
* `/deployments/ID` describes a deployment,
* `/deployments/ID/stop` asks to stop it.

The text of an id is anything without a slash. A line feed at the very end of a path is passed
over unless it belongs to an id. `resolve` decides what becomes of a request.
-/

namespace Teardown.Api

/-- A request. -/
structure Request where
  method : String
  /-- The decoded path. -/
  path : String
  /-- The query as it was sent. -/
  query : String
deriving DecidableEq, Repr

/-- The request for a target, which is a path and perhaps a query. -/
def Request.ofTarget (method target : String) : Request where
  method := method
  path := Text.percentDecode (String.ofList (target.toList.takeWhile (· != '?')))
  query := String.ofList ((target.toList.dropWhile (· != '?')).drop 1)

/-- What a path leads to. -/
inductive Route where
  | service
  | health
  | deployment (id : String)
  | stop (id : String)
deriving DecidableEq, Repr

namespace Route

/-- Whether the last segment of a path is a name, perhaps with a line feed after it. -/
def isLast (name segment : String) : Bool :=
  segment == name || segment == name ++ "\n"

/-- The route of a path that is given by its segments. -/
def ofSegments? : List String → Option Route
  | [last] =>
    if isLast "" last then some .service
    else if isLast "health" last then some .health
    else none
  | ["deployments", id] => if id = "" then none else some (.deployment id)
  | ["deployments", id, last] =>
    if id = "" then none
    else if isLast "stop" last then some (.stop id)
    else none
  | _ => none

/-- The route of a path, which starts with a slash. -/
def ofPath? (path : String) : Option Route :=
  match path.splitOn "/" with
  | "" :: segments => ofSegments? segments
  | _ => none

/-- The method of a route. -/
def method : Route → String
  | .stop _ => "POST"
  | _ => "GET"

end Route

/-- What becomes of a request. -/
inductive Resolution where
  | found (route : Route)
  | wrongMethod
  | moved
  | unknown
deriving DecidableEq, Repr

/-- A path without the slashes at its end. -/
def withoutSlashes (path : String) : String :=
  String.ofList ((path.toList.reverse.dropWhile (· == '/')).reverse)

/-- Finds the route of a request. A path that is known only without the slashes at its end is
moved there, whatever the method. -/
def Request.resolve (r : Request) : Resolution :=
  match Route.ofPath? r.path with
  | some route => if r.method = route.method then .found route else .wrongMethod
  | none =>
    if r.path.endsWith "/" && (Route.ofPath? (withoutSlashes r.path)).isSome then .moved
    else .unknown

end Teardown.Api
