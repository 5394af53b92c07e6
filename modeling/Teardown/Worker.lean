import Teardown.Api
import Teardown.Github.Client
import Teardown.Log.Setup
import Teardown.Settings
import Teardown.StopJob

/-!
# The worker

Settings determine a `Wiring`: the database and the account on the remote service. Both are
checked when they are wired, the database first. A wiring becomes a `Worker` in a host that
provides storage, a connection to the service, a clock, task ids and a log: the worker runs
stopping tasks and answers requests.
-/

namespace Teardown

/-- The configuration of the client that settings ask for. -/
def Settings.github (s : Settings) : Github.Config where
  token := s.token
  owner := s.owner
  repository := s.repository
  workflow := s.workflow
  ref := s.ref
  baseUrl := s.apiBaseUrl
  requestTimeout := .decimal s.requestTimeout
  lookupAttempts := s.lookupAttempts
  lookupInterval := .decimal s.lookupInterval

/-- The checked parts that settings determine. -/
structure Wiring where
  settings : Settings
  database : Database.Url
  account : Github.Account

/-- Checks the parts that settings determine. -/
def Wiring.ofSettings (settings : Settings) : Except Failure Wiring := do
  let database ← (Database.connect settings.databaseUrl).mapError Failure.database
  let account ← settings.github.check
  return { settings, database, account }

/-- What a worker needs of the place where it runs. -/
structure Host (m : Type → Type) where
  repository : Repository m
  /-- Whether the database answers a trivial query. -/
  databaseAnswers : m Bool
  clock : Clock m Seconds
  send : Github.Message → m Github.Exchange
  /-- Closes the connection to the remote service. -/
  close : m Unit
  newId : m String
  write : Log.Entry → m Unit
  /-- The number of moves after which a job, and of tasks after which a drain, counts as
  unfinished. -/
  horizon : Nat

namespace Host

variable {m : Type → Type} [Monad m]

/-- The host with a log that keeps the entries of a setup only. -/
def filtered (h : Host m) (log : Log.Setup) : Host m where
  repository := h.repository
  databaseAnswers := h.databaseAnswers
  clock := h.clock
  send := h.send
  close := h.close
  newId := h.newId
  write e := if log.keeps e then h.write e else pure ()
  horizon := h.horizon

/-- Checks the database between two readings of the clock. -/
def checkHealth (h : Host m) : m (Except Database.HealthError String) := do
  let before ← h.clock.now
  let answers ← h.databaseAnswers
  let after ← h.clock.now
  return Database.checkHealth answers before.toFloat after.toFloat

/-- What a stop job needs, with the given client. -/
def surroundings (h : Host m) (client : WorkflowClient m) : StopJob.Surroundings m Seconds where
  repository := h.repository
  client := client
  clock := h.clock
  write := h.write
  horizon := h.horizon

end Host

/-- A worker at a host. -/
structure Worker (m : Type → Type) where
  host : Host m
  runner : Runner m
  service : Api.Service m

/-- Puts a worker together: its only tasks are stopping tasks. -/
def Wiring.worker {m : Type → Type} [Monad m] (w : Wiring) (host : Host m) : Worker m :=
  let client := w.account.client ⟨host.send, host.clock.pause, host.write⟩
  let runner : Runner m := {
    registry := ⟨[(StopJob.name, StopJob.handler (host.surroundings client))]⟩
    newId := host.newId
    write := host.write }
  { host, runner
    service := {
      environmentName := w.settings.environmentName
      target := w.database.label
      checkHealth := host.checkHealth
      repository := host.repository
      runner } }

end Teardown
