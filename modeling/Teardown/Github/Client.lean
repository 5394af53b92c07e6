import Teardown.Github.Request
import Teardown.Github.Title
import Teardown.Procedure
import Teardown.Workflow.Client

/-!
# Starting and polling teardown runs

The service does not say which run a dispatch creates. The client therefore lists the known runs
first, dispatches, and then looks for a run that was not known and whose title mentions the slug
of the instance, for a limited number of attempts with a pause before each. The dispatch is sent
once at most.

A poll reads one run: only a run that is `completed` has ended, and only the conclusion
`success` is a success.
-/

namespace Teardown.Github

/-- A run in a list of runs. -/
structure ListedRun where
  id : RunId
  title : String
  url : Json
deriving Repr

/-- The display form of a member; what is missing or empty reads as `default`. -/
def memberText (default key : String) (members : Json.Members) : String :=
  match Json.member? key members with
  | none => default
  | some v => if v.isEmptyish then default else v.display

/-- A run from an entry of a list; entries without an integer id are passed over. -/
def ListedRun.ofJson? : Json → Option ListedRun
  | .obj members => do
    let id ← (Json.member? "id" members).bind RunId.ofJson?
    return ⟨id, memberText "" "display_title" members,
      (Json.member? "html_url" members).getD .null⟩
  | _ => none

/-- The runs that a list delivers. -/
def listedRuns (payload : Option Json) : Except Failure (List ListedRun) :=
  match payload.bind (Json.get? "workflow_runs") with
  | some (.arr entries) => .ok (entries.filterMap ListedRun.ofJson?)
  | _ => .error (.workflow ⟨.runListMissing, none⟩)

/-- The runs that the exchange of a listing delivers. -/
def Account.runsOf (a : Account) (exchange : Exchange) : Except Failure (List ListedRun) :=
  (a.listing.payload exchange).bind listedRuns

/-- The cause of a run that ended without success. -/
def failureCause (run : RunHandle) (conclusion : String) (url : Json) : String :=
  "workflow run " ++ run.id.display ++ " completed with conclusion '" ++ conclusion ++ "'" ++
    (if url.isEmptyish then "" else " (" ++ url.display ++ ")")

/-- The state of a run as the members of its description tell it. -/
def runStatus (run : RunHandle) (members : Json.Members) : RunStatus :=
  if Text.strip (memberText "" "status" members) = "completed" then
    let conclusion := Text.strip (memberText "unknown" "conclusion" members)
    if conclusion = "success" then .succeeded
    else
      let own := (Json.member? "html_url" members).getD .null
      .failed (some (failureCause run conclusion (if own.isEmptyish then run.url else own)))
  else .pending

/-- The state of a run that the exchange of a poll delivers. -/
def Account.statusOf (a : Account) (run : RunHandle) (exchange : Exchange) :
    Except Failure RunStatus :=
  ((a.runState run.id).payload exchange).bind fun payload =>
    match payload with
    | some (.obj members) => .ok (runStatus run members)
    | _ => .error (.workflow ⟨.runNotObject, some run.id⟩)

namespace Start

/-- The questions of a start. -/
inductive Question where
  | send (request : Request)
  | pause (span : Seconds)

/-- The answers to the questions of a start. -/
def Answer : Question → Type
  | .send _ => Exchange
  | .pause _ => Unit

/-- What the start does next; `known` are the ids listed before the dispatch, and `attempt`
counts the attempts to find the run that are over. -/
inductive Phase where
  | listing
  | dispatching (known : List Int)
  | pausing (known : List Int) (attempt : Nat)
  | looking (known : List Int) (attempt : Nat)
  | ended (result : Except Failure RunHandle)

/-- A start in the middle of its work, with log entries to be written. -/
structure State where
  log : List Log.Entry
  phase : Phase

/-- An entry of the client's log. -/
def entry (message : String) : Log.Entry :=
  ⟨.info, "adapters.github_actions", message⟩

/-- The start before its first move. -/
def State.initial : State := ⟨[], .listing⟩

/-- The next attempt to find the run, if one is left. -/
def seek (a : Account) (slug : String) (known : List Int) (attempt : Nat)
    (log : List Log.Entry) : State :=
  if attempt < a.lookupAttempts then
    if a.lookupInterval.isPositive then ⟨log, .pausing known attempt⟩
    else ⟨log, .looking known attempt⟩
  else ⟨log, .ended (.error (.workflow ⟨.runNotFound a.workflow slug a.lookupAttempts, none⟩))⟩

/-- The first listed run that is not known and whose title mentions the slug. -/
def found? (slug : String) (known : List Int) (runs : List ListedRun) : Option ListedRun :=
  runs.find? fun run => !known.contains run.id.value && mentions slug run.title

/-- Starting a teardown as a procedure, for a slug that is not blank. -/
def next (a : Account) (slug : String) (s : State) :
    Move Question Answer State (Except Failure RunHandle) :=
  match s.phase with
  | .listing => .ask s.log (.send a.listing) fun exchange =>
      match a.runsOf exchange with
      | .error failure => ⟨[], .ended (.error failure)⟩
      | .ok runs => ⟨[], .dispatching (runs.map (·.id.value))⟩
  | .dispatching known => .ask s.log (.send (a.dispatch slug)) fun exchange =>
      match (a.dispatch slug).payload exchange with
      | .error failure => ⟨[], .ended (.error failure)⟩
      | .ok _ =>
        seek a slug known 0
          [entry ("dispatched workflow '" ++ a.workflow ++ "' on ref '" ++ a.ref ++
            "' for instance '" ++ slug ++ "'")]
  | .pausing known attempt => .ask s.log (.pause a.lookupInterval) fun _ =>
      ⟨[], .looking known attempt⟩
  | .looking known attempt => .ask s.log (.send a.listing) fun exchange =>
      match a.runsOf exchange with
      | .error failure => ⟨[], .ended (.error failure)⟩
      | .ok runs =>
        match found? slug known runs with
        | some run =>
          ⟨[entry ("located workflow run " ++ run.id.display ++ " after " ++
            toString (attempt + 1) ++ " lookup attempt(s)")], .ended (.ok ⟨run.id, run.url⟩)⟩
        | none => seek a slug known (attempt + 1) []
  | .ended result => .done s.log result

end Start

/-- What the client needs of its surroundings: a transport for requests, pauses and a log. -/
structure Transport (m : Type → Type) where
  send : Message → m Exchange
  pause : Seconds → m Unit
  write : Log.Entry → m Unit

variable {m : Type → Type} [Monad m]

/-- Sends a request, unless its address cannot be formed. -/
def Account.exchange (a : Account) (transport : Transport m) (request : Request) : m Exchange :=
  match a.message request with
  | .error failure => return .error (.raw failure)
  | .ok message => transport.send message

/-- Answers the questions of a start. -/
def Start.answer (a : Account) (transport : Transport m) : (q : Question) → m (Answer q)
  | .send request => a.exchange transport request
  | .pause span => transport.pause span

/-- The number of moves within which every start ends. -/
def Account.startHorizon (a : Account) : Nat :=
  2 * a.lookupAttempts + 4

/-- Starts a teardown for an instance. -/
def Account.start (a : Account) (transport : Transport m) (inst : Instance) :
    m (Except Failure RunHandle) := do
  let slug := Text.strip inst.slug
  if slug = "" then return .error (.workflow ⟨.blankSlug, none⟩)
  match ← Procedure.run (Start.answer a transport) transport.write (Start.next a slug)
      a.startHorizon Start.State.initial with
  | some result => return result
  | none => return .error (.workflow ⟨.runNotFound a.workflow slug a.lookupAttempts, none⟩)

/-- Polls a run. -/
def Account.poll (a : Account) (transport : Transport m) (run : RunHandle) :
    m (Except Failure RunStatus) := do
  let exchange ← a.exchange transport (a.runState run.id)
  return a.statusOf run exchange

/-- The name of the service. -/
def sourceName : String := "github_actions"

/-- The client of an account. -/
def Account.client (a : Account) (transport : Transport m) : WorkflowClient m where
  source := return .ok sourceName
  start := a.start transport
  poll := a.poll transport

end Teardown.Github
