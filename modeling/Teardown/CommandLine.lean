import Teardown.CommandLine.Arguments
import Teardown.Worker

/-!
# The command line

A command line is planned before anything runs: its arguments are read, the settings are loaded,
the log is set up, and the worker is wired; the first fault ends the planning. The worker then
serves requests, or stops one deployment.

`stop` submits one stopping task, runs it, closes the connection in any case, and tells by its
exit code how the deployment ended: 0 when it was stopped or skipped, 1 when it was not.
-/

namespace Teardown.CommandLine

/-- Why a command line does not come to run. -/
inductive Error where
  | usage (cause : UsageError)
  | failed (cause : Failure)
deriving DecidableEq, Repr

/-- The deployment to stop, and the task that stops it. -/
structure Order where
  deploymentId : Int
  task : Envelope

/-- The order of a command line: an override that is given takes the place of the settings. -/
def Order.ofArguments (settings : Settings) (a : Arguments) (deploymentId : Int) : Order where
  deploymentId := deploymentId
  task := StopRequest.task (.int deploymentId)
    (some (.float (a.timeout.getD settings.stopTimeout)))
    (some (.float (a.interval.getD settings.stopInterval)))

/-- What a command line comes to. -/
inductive Plan where
  | help
  | serve (log : Log.Setup) (wiring : Wiring)
  | stop (log : Log.Setup) (wiring : Wiring) (order : Order)

/-- Plans a command with the settings that are in force. -/
def Plan.ofSettings (a : Arguments) (settings : Settings) : Except Error Plan := do
  let log ← (Log.Setup.ofName settings.logLevel).mapError fun r => .failed (.refused r)
  let wiring := (Wiring.ofSettings settings).mapError Error.failed
  match a.command, a.deploymentId with
  | .serve, _ => return .serve log (← wiring)
  | .stop, none => throw (.usage .deploymentMissing)
  | .stop, some id => return .stop log (← wiring) (.ofArguments settings a id)

/-- Plans a command line in an environment, with the text of the file of variables if there is
one. -/
def Plan.ofTexts (texts : List String) (environment : List (String × String))
    (file : Option String) : Except Error Plan := do
  match ← (Invocation.ofTexts texts).mapError Error.usage with
  | .help => return .help
  | .run arguments =>
    let settings ← (Settings.load environment file).mapError fun cause =>
      .failed (.settings cause)
    Plan.ofSettings arguments settings

/-- The title of the program interface. -/
def serviceTitle : String := "Deploy Worker"

/-- How a command ends. -/
inductive Exit where
  | code (code : Nat)
  | raised (failure : Failure)
  | unfinished
deriving DecidableEq, Repr

/-- An entry of the log about a deployment that was not stopped. -/
def entry (message : String) : Log.Entry :=
  ⟨.error, "main", message⟩

variable {m : Type → Type} [Monad m] [MonadStateOf Queue m]

/-- Reports the outcomes of the tasks. The code so far becomes 1 with the first task that failed
or whose job reports a failure; in the second case the stored error is reported. -/
def report (host : Host m) (order : Order) (code : Nat) : List Outcome → m Exit
  | [] => return .code code
  | outcome :: rest => do
    match outcome.ending with
    | .error line =>
      host.write (entry ("task " ++ outcome.taskId ++ " failed: " ++ line))
      report host order 1 rest
    | .ok result =>
      if result.status = "failed" then
        match ← host.repository.getDeployment order.deploymentId with
        | .error failure => return .raised failure
        | .ok deployment =>
          host.write (entry ("deployment " ++ toString order.deploymentId ++
            " failed to stop: " ++ deployment.error.getD "None"))
          report host order 1 rest
      else report host order code rest

/-- Stops a deployment. -/
def stop (w : Worker m) (order : Order) : m Exit := do
  match ← w.runner.submit order.task with
  | .error failure =>
    w.host.close
    return .raised failure
  | .ok _ =>
    let drain ← w.runner.drain w.host.horizon
    w.host.close
    match drain with
    | .drained outcomes => report w.host order 0 outcomes
    | .broken failure => return .raised failure
    | .unfinished => return .unfinished

end Teardown.CommandLine
