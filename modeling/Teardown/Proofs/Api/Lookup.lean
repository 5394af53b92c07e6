import Teardown.Api
import Teardown.Proofs.Store.Declared
import Teardown.Proofs.Text.Split
import Teardown.Proofs.Validation.Integer
import Teardown.Proofs.World

/-!
# Looking up deployments

A request to describe a deployment names it in its path (`handle_deployment`), and the text of every
id leads to this id unless it is too long to be read (`readId_toString`).  What is replied is then
decided by what the tables hold (`run_deployment`), and for a deployment without a row by the id alone
(`getDeployment_absent`).

`failures_declared` collects what those who use the deployments can rely on: which failures they are
told of, and that a request for a deployment without a row is answered by a status that says so.  Both
hold for the ids that fit into 64 bits.  Another id is not bound to the statement, and its failure is
not a declared one (`beyondRange_undeclared`).
-/

namespace Teardown

open Store

namespace Api

/-! ### The path of a deployment -/

section Path

variable {text : String}

/-- The segments of the path of a deployment. -/
lemma splitOn_deployment (hslash : '/' ∉ text.toList) :
    ("/deployments/" ++ text).splitOn "/" = ["", "deployments", text] := by
  have hpath : ("/deployments/" ++ text).toList =
      [] ++ '/' :: ("deployments".toList ++ '/' :: text.toList) := by
    rw [String.toList_append]
    rfl
  have hname : '/' ∉ "deployments".toList := by decide
  have hseparator : "/" = String.singleton '/' := rfl
  rw [hseparator, Text.splitOn_singleton, hpath,
    List.splitOn_append_cons_self_of_not_mem List.not_mem_nil,
    List.splitOn_append_cons_self_of_not_mem hname, List.splitOn_eq_singleton hslash]
  simp

/-- The path of a deployment leads to it. -/
lemma ofPath?_deployment (hslash : '/' ∉ text.toList) (hne : text ≠ "") :
    Route.ofPath? ("/deployments/" ++ text) = some (.deployment text) := by
  unfold Route.ofPath?
  rw [splitOn_deployment hslash]
  exact if_neg hne

/-- A request to describe a deployment is found. -/
lemma resolve_deployment (hslash : '/' ∉ text.toList) (hne : text ≠ "") (query : String) :
    (⟨"GET", "/deployments/" ++ text, query⟩ : Request).resolve = .found (.deployment text) := by
  unfold Request.resolve
  dsimp only
  rw [ofPath?_deployment hslash hne]
  exact if_pos rfl

/-- A request to describe a deployment is answered with its description. -/
lemma handle_deployment {m : Type → Type} [Monad m] [LawfulMonad m] [MonadStateOf Queue m]
    (service : Service m) (hslash : '/' ∉ text.toList) (hne : text ≠ "") (query : String) :
    service.handle ⟨"GET", "/deployments/" ++ text, query⟩ =
      (fun reply => { reply := reply }) <$> service.deployment text := by
  have hget : ¬ ("GET" = "HEAD") := by decide
  unfold Service.handle
  rw [resolve_deployment hslash hne]
  dsimp only
  unfold Service.follow
  simp only [if_neg hget, bind_pure, bind_pure_comp]

end Path

/-! ### The id in the path -/

/-- The text of an id is one segment of a path. -/
lemma slash_not_mem_toString (id : Int) : '/' ∉ (toString id).toList := by
  rw [← Json.Reader.int_eq_toString, Json.Writer.int]
  intro hmem
  rcases List.mem_append.mp hmem with hsign | hdigit
  · split at hsign
    · exact absurd (List.mem_singleton.mp hsign) (by decide)
    · cases hsign
  · exact absurd (Json.Reader.isDigit_toDigits id.natAbs '/' hdigit) (by decide)

/-- The text of an id is not empty. -/
lemma toString_ne_empty (id : Int) : toString id ≠ "" := by
  intro hempty
  have hchars := Json.Reader.int_eq_toString id
  rw [hempty] at hchars
  exact Nat.toDigits_ne_nil (List.append_eq_nil_iff.mp hchars).2

/-- The text of an id is read as the id unless it is too long. -/
lemma readId_toString (id : Int) : readId (toString id) =
    if 4300 < (toString id).length then
      .error ⟨.path, StopRequest.deploymentKey, .integerSize, toString id⟩
    else .ok id := by
  unfold readId
  rw [Validation.integerOfText_toString]
  split <;> rfl

/-! ### The reply -/

/-- The reply to what is read of a deployment. -/
def Reply.describing : Except Store.Error Deployment → Reply
  | .ok d => ⟨200, .json d.toJson⟩
  | .error cause => if cause.isMissing then .refusal 404 "deployment not found" else .broken

section Reply

variable {ρ : Type} {service : Service (Play ρ)} {moment : Play ρ String}

/-- The reply to a request to describe a deployment is decided by what the tables hold. -/
lemma run_deployment (hservice : service.repository = Store.repository moment) {text : String}
    {id : Int} (hid : readId text = .ok id) (w : World ρ) :
    (service.deployment text).run w = (.describing (w.store.getDeployment id), w) := by
  unfold Service.deployment
  rw [hid, hservice]
  dsimp only
  rw [Play.run_bind]
  have hread : ((Store.repository moment).getDeployment id).run w =
      ((w.store.getDeployment id).mapError Failure.store, w) := rfl
  rw [hread]
  dsimp only
  cases w.store.getDeployment id with
  | ok d => rfl
  | error cause => rfl

/-- A deployment without a row is missing, or its id cannot be bound. -/
lemma getDeployment_absent {s : Store} (hs : s.Migrated) {id : Int} (habsent : s.row? id = none) :
    s.getDeployment id = .error (if idFits id then .deploymentMissing id else .idTooLarge) := by
  obtain ⟨rows, hrows⟩ := hs.deployments
  have hmissing : ∀ row ∈ rows, row.id ≠ id := by
    unfold row? at habsent
    rw [hrows] at habsent
    exact fun row hrow => by simpa using List.find?_eq_none.mp habsent row hrow
  unfold getDeployment
  rw [fetchDeployment_eq]
  by_cases hfits : idFits id = true
  · rw [if_pos hfits, fetch_eq_error_iff.mpr (.absent hrows hfits hmissing)]
    rfl
  · have hlarge : idFits id = false := Bool.not_eq_true _ ▸ hfits
    rw [if_neg hfits, fetch_eq_error_iff.mpr (.tooLarge hrows hlarge)]
    rfl

end Reply

/-! ### The theorem -/

/-- An operation on tables that are there fails with an undeclared failure in three cases only: its
error text has half of a surrogate pair in it, its id does not fit into 64 bits, or it comes to a row
of which it cannot read a stamp.  Otherwise it returns a record, or its failure is declared.  A request
to describe a deployment without a row is replied to with the status 404 if its id fits, and it is
unprocessable if its id is too long to be read.  Any other id breaks the request. -/
theorem failures_declared {s : Store} (hs : s.Migrated) {now : String} (hnow : IsStamp now) :
    (∀ op : Operation, op.NamesStatus →
      (op.Halved → ∃ failure, (op.run now).run s = (.error failure, s) ∧
        failure.kind = "UnicodeEncodeError") ∧
      (¬ op.Halved → idFits op.id = false → ∃ failure,
        (op.run now).run s = (.error failure, s) ∧ failure.kind = "OverflowError") ∧
      (¬ op.Halved → ∀ cell, op.Misdated s cell → ∃ failure,
        (op.run now).run s = (.error failure, s) ∧ failure.kind = cell.fault) ∧
      (¬ op.Halved → idFits op.id = true → (∀ cell, ¬ op.Misdated s cell) →
        (∃ record t, (op.run now).run s = (.ok record, t)) ∨
          ∃ failure, (op.run now).run s = (.error failure, s) ∧ failure.kind ∈ declaredKinds)) ∧
    (∀ {ρ : Type} {service : Service (Play ρ)} {moment : Play ρ String} (w : World ρ),
      service.repository = Store.repository moment → w.store = s →
      ∀ (id : Int) (query : String), s.row? id = none →
        (service.handle ⟨"GET", "/deployments/" ++ toString id, query⟩).run w =
          ({ reply :=
              if 4300 < (toString id).length then
                .unprocessable
                  [⟨.path, StopRequest.deploymentKey, .integerSize, toString id⟩]
              else if idFits id then .refusal 404 "deployment not found"
              else .broken }, w)) := by
  refine ⟨fun op hnamed => ⟨fun hhalved => ?_, fun hwhole hlarge => ?_,
    fun hwhole cell hdated => ?_, fun hwhole hfits hdated => ?_⟩, ?_⟩
  · obtain ⟨reason, hfails⟩ := op.fails_of_halved now hs hnamed hhalved
    exact ⟨_, Operation.run_eq_error_iff.mpr ⟨rfl, _, hfails, rfl⟩, rfl⟩
  · have hfails := op.fails_of_unfit now hs hnamed hwhole hlarge
    exact ⟨_, Operation.run_eq_error_iff.mpr ⟨rfl, _, hfails, rfl⟩, rfl⟩
  · obtain ⟨e, hfails, hkind⟩ := op.fails_of_misdated now hwhole hdated
    exact ⟨_, Operation.run_eq_error_iff.mpr ⟨rfl, e, hfails, rfl⟩, hkind⟩
  · cases hrun : (op.run now).run s with
    | mk result t =>
      cases result with
      | ok record => exact .inl ⟨record, t, rfl⟩
      | error failure =>
        obtain ⟨rfl, e, hfails, rfl⟩ := Operation.run_eq_error_iff.mp hrun
        exact .inr ⟨_, rfl, hfails.declared hnow hnamed hwhole hfits hdated⟩
  · -- The path is read first, and only an id that could be read is looked up.
    intro ρ service moment w hservice hstore id query habsent
    rw [handle_deployment service (slash_not_mem_toString id) (toString_ne_empty id),
      Play.run_map]
    split
    · rename_i hlong
      have hread := readId_toString id
      rw [if_pos hlong] at hread
      unfold Service.deployment
      rw [hread]
      rfl
    · rename_i hshort
      have hread := readId_toString id
      rw [if_neg hshort] at hread
      rw [run_deployment hservice hread, hstore, getDeployment_absent hs habsent]
      split <;> rfl

/-! ### Ids and stamps that are not declared -/

/-- A service whose writes are stamped with a fixed moment. -/
def fixedMoment : Service (Play Unit) where
  environmentName := "test"
  target := ""
  checkHealth := pure (.ok "up")
  repository := Store.repository (pure "2020-01-02 03:04:06")
  runner := { registry := { handlers := [] }, newId := pure "task-1", write := fun _ => pure () }

/-- Three running deployments.  The times of creation of the second and the third cannot be read: one
is a text, the other was taken for a number when it was stored. -/
def halfDated : Store where
  instances := some []
  deployments := some [⟨1, 1, "running", none, "2020-01-02T03:04:05Z", "2020-01-02 03:04:05"⟩,
    ⟨2, 2, "running", none, "yesterday", "2020-01-02 03:04:05"⟩,
    ⟨3, 3, "running", none, Cell.ofText "20200102", "2020-01-02 03:04:05"⟩]

/-- The first deployment is updated, with a text that can be stored, and the others are not.  The fourth
one has no row, and a request to describe it is told so. -/
theorem halfDated_declared :
    let now := "2020-01-02 03:04:06"
    let opening : World Unit := .opening { history := 1 } halfDated ()
    halfDated.Migrated ∧ IsStamp now ∧
    (∃ failure, ((Operation.getInstance idLimit).run now).run halfDated =
      (.error failure, halfDated) ∧ failure.kind = "OverflowError") ∧
    (∃ failure, ((Operation.setStatusAndError 1 (.str "failed") (some [.half 0])).run now).run
      halfDated = (.error failure, halfDated) ∧ failure.kind = "UnicodeEncodeError") ∧
    (∃ failure, ((Operation.updateStatus 2 (.str "stopping")).run now).run halfDated =
      (.error failure, halfDated) ∧ failure.kind = "ValueError") ∧
    (∃ failure, ((Operation.getDeployment 3).run now).run halfDated =
      (.error failure, halfDated) ∧ failure.kind = "TypeError") ∧
    (∃ record t, ((Operation.setStatusAndError 1 (.str "failed") (some (Text.points "gone"))).run
      now).run halfDated = (.ok record, t)) ∧
    halfDated.row? 4 = none ∧
    (fixedMoment.handle ⟨"GET", "/deployments/4", ""⟩).run opening =
      ({ reply := .refusal 404 "deployment not found" }, opening) := by
  intro now opening
  have hmigrated : halfDated.Migrated := ⟨⟨_, rfl⟩, ⟨_, rfl⟩⟩
  have hnow : IsStamp "2020-01-02 03:04:06" := ⟨_, rfl⟩
  obtain ⟨hoperations, hrequests⟩ := failures_declared hmigrated hnow
  have hlarge := (hoperations (.getInstance idLimit) trivial).2.1 id (by decide)
  have hhalved := (hoperations (.setStatusAndError 1 (.str "failed") (some [.half 0]))
    ⟨.failed, rfl⟩).1 ⟨0, List.mem_cons_self⟩
  have htext := (hoperations (.updateStatus 2 (.str "stopping")) ⟨.stopping, rfl⟩).2.2.1 id
    "yesterday" ⟨_, .stopping, ⟨by decide, rfl⟩, rfl, rfl, rfl, fun ⟨_, hread⟩ => by cases hread⟩
  have hnumber := (hoperations (.getDeployment 3) trivial).2.2.1 id (.integer 20200102)
    ⟨_, ⟨by decide, rfl⟩, .created fun ⟨_, hread⟩ => by cases hread⟩
  have hwhole : ¬ (Operation.setStatusAndError 1 (.str "failed") (some (Text.points "gone"))).Halved :=
    fun ⟨n, hmem⟩ => Text.ofPoints_eq_ok_iff.mp ⟨_, Text.ofPoints_points "gone"⟩ n hmem
  have hupdated := (hoperations (.setStatusAndError 1 (.str "failed") (some (Text.points "gone")))
    ⟨.failed, rfl⟩).2.2.2 hwhole (by decide) (by
      rintro _ ⟨row, _, ⟨_, hrow⟩, _, _, rfl, hcreated⟩
      cases hrow
      exact hcreated ⟨_, rfl⟩)
  have hreply := @hrequests Unit fixedMoment _ opening rfl rfl 4 "" rfl
  refine ⟨hmigrated, hnow, hlarge, hhalved, htext, hnumber, ?_, rfl, ?_⟩
  · rcases hupdated with h | ⟨failure, hfailed, _⟩
    · exact h
    · cases hfailed
  · exact hreply

/-- The first id outside 64 bits has no row in tables without rows, and yet neither the operation nor
the request says that its deployment is missing. -/
theorem beyondRange_undeclared :
    let opening : World Unit := .opening { history := 1 } Store.empty ()
    Store.empty.row? idLimit = none ∧
    (∃ failure, ((Operation.getDeployment idLimit).run "2020-01-02 03:04:06").run Store.empty =
      (.error failure, Store.empty) ∧ failure.kind ∉ declaredKinds) ∧
    (fixedMoment.handle ⟨"GET", "/deployments/9223372036854775808", ""⟩).run opening =
      ({ reply := .broken }, opening) ∧ Reply.broken.status = 500 := by
  intro opening
  refine ⟨rfl, ⟨.store .idTooLarge, rfl, by decide⟩, ?_, rfl⟩
  have hpath : "/deployments/9223372036854775808" = "/deployments/" ++ toString idLimit := by
    decide
  rw [hpath, handle_deployment fixedMoment (slash_not_mem_toString _) (toString_ne_empty _)]
  have hread : readId (toString idLimit) = .ok idLimit := by
    rw [readId_toString, if_neg (by decide)]
  rw [Play.run_map, run_deployment rfl hread]
  rfl

end Api

end Teardown
