import Teardown.Text.Blank
import Teardown.Text.Word
import Teardown.Text.Digit
import Teardown.Text.Quoted
import Teardown.Text.Capital
import Teardown.Text.Point
import Teardown.Decimal.Nearest
import Teardown.Decimal.Layout
import Teardown.Json.Reader
import Teardown.Json.Writer
import Teardown.Json.Display
import Teardown.Decimal.Round
import Teardown.Time.Seconds
import Teardown.Time.Stamp
import Teardown.Time.StampReader
import Teardown.Log
import Teardown.Procedure
import Teardown.Deployment.Record
import Teardown.Workflow.Run
import Teardown.Validation.Number
import Teardown.Timeline
import Teardown.Store.Cell
import Teardown.Store.Operation
import Teardown.Store.Change
import Teardown.Task.StopRequest
import Teardown.Task.Runner
import Teardown.Text.Percent
import Teardown.Text.Ascii
import Teardown.StopJob
import Teardown.Github.Client
import Teardown.Log.Setup
import Teardown.Component
import Teardown.Store.Repository
import Teardown.Settings
import Teardown.Database.Health
import Teardown.Database.Migration
import Teardown.Api
import Teardown.CommandLine
import Teardown.Main
import Teardown.Proofs.Procedure
import Teardown.Proofs.Except
import Teardown.Proofs.World
import Teardown.Proofs.StopJob.Answers
import Teardown.Proofs.StopJob.Course
import Teardown.Proofs.Dispatch
import Teardown.Proofs.Crew
import Teardown.Proofs.Github.Transcript
import Teardown.Proofs.StopJob.Journey
import Teardown.Proofs.StopJob.Verdict
import Teardown.Proofs.StopJob.Raised
import Teardown.Proofs.Decimal.Bits
import Teardown.Proofs.Time.Exact
import Teardown.Proofs.Workflow.Bounded
import Teardown.Proofs.Workflow.Elapsed
import Teardown.Proofs.Workflow.Longer
import Teardown.Proofs.Decimal.Nearest
import Teardown.Proofs.Decimal.Shortest
import Teardown.Proofs.Decimal.ReadBack
import Teardown.Proofs.Json.Number
import Teardown.Proofs.Json.Length
import Teardown.Proofs.Json.RoundTrip
import Teardown.Proofs.Task.Envelope
import Teardown.Proofs.Task.Submission
import Teardown.Proofs.Text.Strip
import Teardown.Proofs.Github.Title
import Teardown.Proofs.Github.Confusion
import Teardown.Proofs.Github.Concurrent
import Teardown.Proofs.Task.History
import Teardown.Proofs.Api.Background
import Teardown.Proofs.Json.Image
import Teardown.Proofs.Task.RoundTrip
import Teardown.Proofs.Apart
import Teardown.Proofs.Task.Admission
import Teardown.Proofs.StopJob.Ending
import Teardown.Proofs.StopJob.Diagnosis
import Teardown.Proofs.Settings.Accepted
import Teardown.Proofs.Wiring
import Teardown.Proofs.Trigger
import Teardown.Proofs.CommandLine.Exit
import Teardown.Proofs.Store.Update
import Teardown.Proofs.Store.Atomic
import Teardown.Proofs.Github.Token
import Teardown.Proofs.Json.Display
import Teardown.Proofs.Github.Poll
import Teardown.Proofs.Github.Protocol
import Teardown.Proofs.Settings.Acceptance
import Teardown.Proofs.Text.Split
import Teardown.Proofs.Validation.Integer
import Teardown.Proofs.Store.Declared
import Teardown.Proofs.Api.Lookup
import Teardown.Proofs.Task.Registry
