import Mathlib.Tactic.Lemma
import Teardown.Github.Client
import Teardown.Proofs.Store.Commit
import Teardown.StopJob
import Teardown.Store.Repository
import Teardown.Task.Runner

/-!
# Worlds in which jobs run

A world holds the queue and the tables, and whatever else there is: clocks, remote services and the
reasons for which storage fails.  That rest is a type of its own, `ρ`, about which nothing is
assumed, so that a statement about every world covers every behaviour of the surroundings.

An `Environment` decides, out of `ρ`, before each operation on the tables whether it fails, and how.
Every call that a job makes is noted in the `record` of the world, with its result and with the
tables that it saw, under the number of the `turn` in which it is made.  The record is never read by
what runs: it is there to speak about runs.
-/

namespace Teardown

/-! ### Calls and scenes -/

/-- A call of a job to its surroundings, with its result. -/
inductive Call where
  /-- Reads a deployment; `seen` are the tables at that moment. -/
  | deployment (id : Int) (seen : Store) (result : Except Failure Deployment)
  /-- Reads an instance; `seen` are the tables at that moment. -/
  | location (id : Int) (seen : Store) (result : Except Failure Instance)
  /-- Writes a status and an error text, from the tables before to the tables after. -/
  | write (id : Int) (status : Status) (error : Option String) (before after : Store)
      (result : Except Failure Unit)
  | source (result : Except Failure String)
  | start (inst : Instance) (result : Except Failure RunHandle)
  | poll (run : RunHandle) (result : Except Failure RunStatus)
  /-- Sends a message to the remote service. -/
  | send (message : Github.Message) (exchange : Github.Exchange)

/-- A call and the turn in which it was made. -/
structure Event where
  turn : Nat
  call : Call

/-- The part of a world that properties speak about. -/
structure Scene where
  queue : Queue
  store : Store
  turn : Nat := 0
  record : List Event := []

/-- The scene after some calls that leave the given tables. -/
def Scene.after (sc : Scene) (calls : List Call) (store : Store) : Scene :=
  { sc with store := store, record := sc.record ++ calls.map (Event.mk sc.turn) }

@[simp] lemma Scene.after_store (sc : Scene) (calls : List Call) (store : Store) :
    (sc.after calls store).store = store := rfl

lemma Scene.after_record (sc : Scene) (calls : List Call) (store : Store) :
    (sc.after calls store).record = sc.record ++ calls.map (Event.mk sc.turn) := rfl

/-- Without calls, and with the tables as they are, nothing changes. -/
@[simp] lemma Scene.after_nil (sc : Scene) : sc.after [] sc.store = sc := by
  simp [Scene.after]

/-- Calls after calls. -/
@[simp] lemma Scene.after_after (sc : Scene) (calls more : List Call) (s t : Store) :
    (sc.after calls s).after more t = sc.after (calls ++ more) t := by
  simp [Scene.after, List.append_assoc]

/-- A scene and all the rest. -/
structure World (ρ : Type) extends Scene where
  outside : ρ

/-- A world before its first turn. -/
def World.opening {ρ : Type} (queue : Queue) (store : Store) (outside : ρ) : World ρ :=
  { queue, store, outside }

/-- What happens in a world. -/
abbrev Play (ρ : Type) := StateM (World ρ)

namespace Play

variable {ρ : Type} {α β : Type}

instance : MonadStateOf Queue (Play ρ) where
  get w := (w.queue, w)
  set q w := ((), { w with queue := q })
  modifyGet f w := ((f w.queue).1, { w with queue := (f w.queue).2 })

instance : MonadStateOf Store (Play ρ) where
  get w := (w.store, w)
  set s w := ((), { w with store := s })
  modifyGet f w := ((f w.store).1, { w with store := (f w.store).2 })

/-- What happens outside leaves the scene alone. -/
def outside (x : StateM ρ α) : Play ρ α := fun w =>
  ((x w.outside).1, { w with outside := (x w.outside).2 })

/-- Notes a call in the record. -/
def note (call : Call) : Play ρ Unit := fun w =>
  ((), { w with record := w.record ++ [⟨w.turn, call⟩] })

/-- Carries out an operation and notes it, with the tables before and after. -/
def noted (call : Store → Store → α → Call) (operation : Play ρ α) : Play ρ α := do
  let before ← getThe Store
  let a ← operation
  note (call before (← getThe Store) a)
  return a

/-- A noted operation leaves one more call in the record. -/
lemma noted_scene (call : Store → Store → α → Call) {x : Play ρ α} {w : World ρ}
    {calls : List Call} {t : Store} (h : (x.run w).2.toScene = w.toScene.after calls t) :
    ((noted call x).run w).2.toScene =
      w.toScene.after (calls ++ [call w.store t (x.run w).1]) t := by
  have hstore : (x.run w).2.store = t := congrArg Scene.store h
  rw [← hstore] at h ⊢
  rw [← Scene.after_after, ← h]
  rfl

lemma run_map (f : α → β) (x : Play ρ α) (w : World ρ) :
    (f <$> x).run w = (f (x.run w).1, (x.run w).2) := rfl

lemma run_bind (x : Play ρ α) (f : α → Play ρ β) (w : World ρ) :
    (x >>= f).run w = (f (x.run w).1).run (x.run w).2 := rfl

end Play

/-! ### Environments -/

/-- What surrounds a job besides the tables and the remote service. -/
structure Environment (ρ : Type) where
  /-- Whether the next operation on the tables fails, and how. -/
  fault : StateM ρ (Option Failure)
  /-- The stamp of the next write. -/
  stamp : StateM ρ String
  clock : Clock (StateM ρ) Seconds
  newId : StateM ρ String
  write : Log.Entry → StateM ρ Unit
  /-- The number of moves after which a job counts as unfinished. -/
  horizon : Nat

namespace Environment

variable {ρ : Type} {α : Type}

/-- Carries out an operation on the tables unless it fails beforehand. -/
def guarded (env : Environment ρ) (operation : Play ρ (Except Failure α)) :
    Play ρ (Except Failure α) := do
  match ← Play.outside env.fault with
  | some failure => return .error failure
  | none => operation

/-- The repository over the tables of the world, which fails when the environment says so. -/
def repository (env : Environment ρ) : Repository (Play ρ) :=
  let tables : Repository (Play ρ) := Store.repository (Play.outside env.stamp)
  { getDeployment := fun id =>
      Play.noted (fun seen _ => .deployment id seen) (env.guarded (tables.getDeployment id))
    getInstance := fun id =>
      Play.noted (fun seen _ => .location id seen) (env.guarded (tables.getInstance id))
    setStatusAndError := fun id status error =>
      Play.noted (.write id status error)
        (env.guarded (tables.setStatusAndError id status error)) }

end Environment

namespace WorkflowClient

variable {ρ : Type}

/-- A client that lives outside: its answers are arbitrary, and it does not touch the tables. -/
def remote (client : WorkflowClient (StateM ρ)) : WorkflowClient (Play ρ) where
  source := Play.outside client.source
  start inst := Play.outside (client.start inst)
  poll run := Play.outside (client.poll run)

/-- A client whose calls are noted. -/
def recorded (client : WorkflowClient (Play ρ)) : WorkflowClient (Play ρ) where
  source := Play.noted (fun _ _ => .source) client.source
  start inst := Play.noted (fun _ _ => .start inst) (client.start inst)
  poll run := Play.noted (fun _ _ => .poll run) (client.poll run)

end WorkflowClient

namespace Environment

variable {ρ : Type}

/-- The surroundings of a job with a given client. -/
def surroundings (env : Environment ρ) (client : WorkflowClient (Play ρ)) :
    StopJob.Surroundings (Play ρ) Seconds where
  repository := env.repository
  client := client.recorded
  clock := ⟨Play.outside env.clock.now, fun span => Play.outside (env.clock.pause span)⟩
  write e := Play.outside (env.write e)
  horizon := env.horizon

/-- The runner of stopping tasks, the only tasks of the worker. -/
def runner (env : Environment ρ) (client : WorkflowClient (Play ρ)) : Runner (Play ρ) where
  registry := ⟨[(StopJob.name, StopJob.handler (env.surroundings client))]⟩
  newId := Play.outside env.newId
  write e := Play.outside (env.write e)

end Environment

end Teardown
