import Teardown.Github.Address
import Teardown.Text.Ascii
import Teardown.Text.Blank
import Teardown.Time.Seconds

/-!
# Configuration of the client

The client is configured with a token, the repository that hosts the cleanup workflow, the
workflow itself and how to look for started runs. `Config.check` strips the texts and refuses
blank texts and numbers out of range, the first fault in the order of the fields.
-/

namespace Teardown.Github

/-- The configuration as an operator writes it. -/
structure Config where
  token : String
  owner : String
  repository : String
  workflow : String := "cleanup.yml"
  ref : String := "main"
  baseUrl : String := "https://api.github.com"
  requestTimeout : Seconds := .decimal 30.0
  lookupAttempts : Int := 5
  lookupInterval : Seconds := .decimal 2.0

/-- A checked configuration. -/
structure Account where
  token : String
  owner : String
  repository : String
  workflow : String
  ref : String
  base : Address
  lookupAttempts : Nat
  lookupInterval : Seconds

/-- A text without the blank characters around it, unless it is all blank. -/
def stripped (argument text : String) : Except Refusal String :=
  if Text.strip text = "" then .error (.blank argument) else .ok (Text.strip text)

/-- The range checks, in the order of the fields: the stripped token, owner, repository,
workflow, ref and base address. -/
def Config.checkArguments (c : Config) :
    Except Refusal (String × String × String × String × String × String) := do
  let token ← stripped "token" c.token
  let owner ← stripped "repository_owner" c.owner
  let repository ← stripped "repository_name" c.repository
  let workflow ← stripped "workflow_file" c.workflow
  let ref ← stripped "workflow_ref" c.ref
  let baseUrl ← stripped "base_url" c.baseUrl
  if c.requestTimeout.notPositive then throw (.notPositive "request_timeout_seconds")
  if c.lookupAttempts < 1 then throw (.below "run_lookup_attempts" 1)
  if c.lookupInterval.isNegative then throw (.below "run_lookup_interval_seconds" 0)
  return (token, owner, repository, workflow, ref, baseUrl)

/-- Checks a configuration. The token has to be ASCII, since it is sent in a header. -/
def Config.check (c : Config) : Except Failure Account := do
  let (token, owner, repository, workflow, ref, baseUrl) ←
    c.checkArguments.mapError Failure.refused
  let base ← Address.ofText baseUrl
  match Text.asciiFault? ("Bearer " ++ token) with
  | some fault => throw (.named "UnicodeEncodeError" fault)
  | none =>
    return {
      token, owner, repository, workflow, ref, base
      lookupAttempts := c.lookupAttempts.toNat
      lookupInterval := c.lookupInterval }

end Teardown.Github
