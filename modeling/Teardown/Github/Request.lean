import Teardown.Github.Config
import Teardown.Json.Reader
import Teardown.Json.Writer

/-!
# Requests and their answers

Three requests are ever sent: the list of recent runs of the cleanup workflow, the dispatch of a
new run, and the state of one run. An answer counts only with a 2xx status; an empty body is no
value, and any other body has to be a value in text form.

The reader of bodies takes up stack for each list and each object that it is in. What is left of the
stack when a body is read is not up to the client, so that each response carries it; a body that is
nested deeper ends the request with a failure of another kind than a malformed one.
-/

namespace Teardown.Github

/-- The methods in use. -/
inductive Method where
  | get
  | post
deriving DecidableEq, Repr

/-- The name of a method. -/
def Method.name : Method → String
  | .get => "GET"
  | .post => "POST"

/-- A request to the service. -/
structure Request where
  method : Method
  path : String
  query : List (String × String) := []
  body : Option Json := none
  /-- The run that failures of the request are reported with. -/
  run : Option RunId := none

/-- A request as it is sent. -/
structure Message where
  method : String
  url : String
  body : Option String
  headers : List (String × String)
deriving DecidableEq, Repr

/-- An answer of the service. -/
structure Response where
  status : Nat
  body : List UInt8
  /-- How deep the body may be nested before its reader has used up the stack. -/
  room : Nat
deriving DecidableEq, Repr

/-- Why there is no answer. -/
inductive SendFault where
  | timedOut
  | transport
  /-- A failure that is passed on as it is. -/
  | raw (failure : Failure)
deriving DecidableEq, Repr

/-- The outcome of sending a request. -/
abbrev Exchange := Except SendFault Response

namespace Account

/-- The path of the repository. -/
def repositoryPath (a : Account) : String :=
  "/repos/" ++ a.owner ++ "/" ++ a.repository

/-- The path of the cleanup workflow. -/
def workflowPath (a : Account) : String :=
  a.repositoryPath ++ "/actions/workflows/" ++ a.workflow

/-- How many recent runs are listed. -/
def pageSize : Nat := 30

/-- Lists the recent dispatched runs of the workflow on the configured ref. -/
def listing (a : Account) : Request where
  method := .get
  path := a.workflowPath ++ "/runs"
  query := [("event", "workflow_dispatch"), ("branch", a.ref), ("per_page", toString pageSize)]

/-- Dispatches a run for the instance with a slug. -/
def dispatch (a : Account) (slug : String) : Request where
  method := .post
  path := a.workflowPath ++ "/dispatches"
  body := some (.obj [("ref", .str a.ref), ("inputs", .obj [("instance_slug", .str slug)])])

/-- Asks for the state of a run. -/
def runState (a : Account) (id : RunId) : Request where
  method := .get
  path := a.repositoryPath ++ "/actions/runs/" ++ id.display
  run := some id

/-- The headers of a request. -/
def headers (a : Account) (r : Request) : List (String × String) :=
  [("accept", "application/vnd.github+json"), ("authorization", "Bearer " ++ a.token)] ++
    (if r.body.isSome then [("content-type", "application/json")] else []) ++
    [("user-agent", "deploy-worker/1.0 (Python/httpx)"), ("x-github-api-version", "2022-11-28")]

/-- A request as it is sent. -/
def message (a : Account) (r : Request) : Except Failure Message :=
  (a.base.target r.path r.query).map fun url =>
    ⟨r.method.name, url, r.body.map Json.compact, a.headers r⟩

end Account

/-- Bodies may hold half a surrogate pair, and integers of at most 4300 digits. -/
def bodyDialect (room : Nat) : Json.Dialect where
  nesting := room
  nestsEmpty := true
  wholeLength decimal := if decimal then none else some 4300
  wholeLength_decimal := rfl
  countsSign := false
  loneHalves := true

/-- Reads the body of a response as a value in text form. -/
def Response.read (r : Response) : Except Json.Fault Json :=
  match Text.decode r.body with
  | some cs => Json.readChars (bodyDialect r.room) cs
  | none => .error .malformed

/-- The failure of a reader without room for a list or an object. -/
def overflow (container : String) : Failure :=
  .named "RecursionError" ("maximum recursion depth exceeded while decoding a JSON " ++ container ++
    " from a unicode string")

/-- The failure of a request. -/
def Request.failure (r : Request) (fault : Workflow.RequestFault) : Failure :=
  .workflow ⟨.request r.method.name r.path fault, r.run⟩

/-- The value that an exchange delivers, none for an empty body. -/
def Request.payload (r : Request) : Exchange → Except Failure (Option Json)
  | .error .timedOut => .error (r.failure .timedOut)
  | .error .transport => .error (r.failure .transport)
  | .error (.raw failure) => .error failure
  | .ok response =>
    if 200 ≤ response.status ∧ response.status < 300 then
      if response.body = [] then .ok none
      else
        match response.read with
        | .ok v => .ok (some v)
        | .error .malformed => .error (r.failure .malformed)
        | .error .deepList => .error (overflow "array")
        | .error .deepObject => .error (overflow "object")
    else .error (r.failure (.rejected response.status))

end Teardown.Github
