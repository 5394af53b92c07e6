import Mathlib.Tactic.Lemma
import Teardown.Proofs.Store.Update
import Teardown.Store.Repository

/-!
# Operations that fail

The four operations on stored deployments are `Operation`, carried out by `Operation.run` on the
store that is kept as state.  `Operation.Fails` lists all reasons for which one of them fails: the
table is gone, the error text or the id cannot be bound, there is no row, the status names none or is
refused, or the row cannot be read.

Each operation looks up one row first, by `fetch`.  An update goes on from there in a transaction,
whose steps have already written when they read the row back (`updateSteps_result`).  Nevertheless
every operation that fails leaves all tables as they were, whatever the reason
(`operations_atomic`).
-/

namespace Teardown

namespace Store

/-! ### The four operations -/

/-- An operation with the arguments of its call.  The status of an update may be any value, and its
error text any points. -/
inductive Operation where
  | getDeployment (id : Int)
  | getInstance (id : Int)
  | updateStatus (id : Int) (status : Json)
  | setStatusAndError (id : Int) (status : Json) (error : Option (List Text.Point))

/-- What an operation returns. -/
inductive Record where
  | deployment (d : Deployment)
  | location (i : Instance)

namespace Operation

/-- Carries out an operation on the store that is kept as state. -/
def run (now : String) : Operation → StateM Store (Except Failure Record)
  | .getDeployment id => Except.map .deployment <$> inspect (Store.getDeployment id)
  | .getInstance id => Except.map .location <$> inspect (Store.getInstance id)
  | .updateStatus id v => Except.map .deployment <$> perform (updateStatusOf now id v)
  | .setStatusAndError id v error =>
    Except.map .deployment <$> perform (setStatusOfAndError now id v error)

/-- An operation that only reads. -/
def isRead : Operation → Bool
  | .getDeployment _ => true
  | .getInstance _ => true
  | _ => false

/-- The id and the assignment of the statement that an update executes.  It executes none if its
status names none or its error text cannot be bound. -/
def statement? : Operation → Option (Int × Assignment)
  | .updateStatus id v => (statusOf v).toOption.map fun status => (id, ⟨status, none⟩)
  | .setStatusAndError id v error =>
    match bindError error with
    | .ok text => (statusOf v).toOption.map fun status => (id, ⟨status, some text⟩)
    | .error _ => none
  | _ => none

end Operation

/-! ### Reading -/

section Read

/-- Why the stamps of a row are not read. -/
inductive Unstamped (created updated : Cell) : Error → Prop
  | created {e} (unread : readStamp created = .error e) : Unstamped created updated e
  | updated {stamp e} (read : readStamp created = .ok stamp)
      (unread : readStamp updated = .error e) : Unstamped created updated e

/-- Why a row is not read. -/
inductive DeploymentRow.Unreadable (row : DeploymentRow) : Error → Prop
  | unstamped {e} (unread : Unstamped row.created row.updated e) : row.Unreadable e
  | unknown {created updated} (hcreated : readStamp row.created = .ok created)
      (hupdated : readStamp row.updated = .ok updated)
      (hstatus : Status.ofText? row.status = none) :
      row.Unreadable (.statusUnknown row.id row.status)

variable {e : Error}

/-- A row is not read for one of the reasons that there are. -/
lemma DeploymentRow.read_eq_error_iff {row : DeploymentRow} :
    row.read = .error e ↔ row.Unreadable e := by
  unfold DeploymentRow.read
  constructor
  · intro h
    rcases Except.eq_error_of_bind h with hcreated | ⟨created, hcreated, h⟩
    · exact .unstamped (.created hcreated)
    · rcases Except.eq_error_of_bind h with hupdated | ⟨updated, hupdated, h⟩
      · exact .unstamped (.updated hcreated hupdated)
      · split at h
        · cases h
        · rename_i hstatus
          cases h
          exact .unknown hcreated hupdated hstatus
  · intro h
    cases h with
    | unstamped unread =>
      cases unread with
      | created hcreated => exact Except.bind_eq_error_iff.mpr (.inl hcreated)
      | updated hcreated hupdated =>
        refine Except.bind_eq_error_iff.mpr (.inr ⟨_, hcreated, ?_⟩)
        exact Except.bind_eq_error_iff.mpr (.inl hupdated)
    | unknown hcreated hupdated hstatus =>
      rw [hcreated, hupdated, hstatus]
      rfl

/-- An instance is not read for its stamp only. -/
lemma InstanceRow.read_eq_error_iff {row : InstanceRow} :
    row.read = .error e ↔ readStamp row.created = .error e := by
  unfold InstanceRow.read
  rw [Except.bind_eq_error_iff]
  refine or_iff_left ?_
  rintro ⟨stamp, _, h⟩
  cases h

end Read

/-! ### Updating -/

section Write

variable {s : Store} {now : String} {id : Int} {a : Assignment} {row : DeploymentRow}

/-- A statement whose status the storage refuses fails if it matches a row. -/
lemma updateDeployment_of_refused (hfits : idFits id = true) (hrow : s.row? id = some row)
    (hrefused : s.refused.contains a.status.text = true) :
    s.updateDeployment now id a = (.error .failed, s) := by
  unfold row? at hrow
  unfold updateDeployment
  cases hrows : s.deployments with
  | none => rfl
  | some rows =>
    rw [hrows] at hrow
    have hmatched : (rows.filter (·.id == id)).length ≠ 0 := by
      have hmem := List.mem_filter.mpr ⟨List.mem_of_find?_eq_some hrow, List.find?_some hrow⟩
      exact Nat.ne_of_gt (List.length_pos_of_mem hmem)
    dsimp only
    rw [if_pos hfits, if_neg hmatched, if_pos hrefused]

/-- The result of the steps of an update: the row is looked up, the storage refuses the status or
accepts it, and the row is read back as it was assigned. -/
lemma updateSteps_result : (updateSteps now id a s).1 =
    fetch s.deployments DeploymentRow.id id (.deploymentUnwritable id) (.deploymentMissing id) >>=
      fun row =>
        if s.refused.contains a.status.text then .error (.deploymentUnwritable id)
        else (a.apply now row).read := by
  cases hfetch : fetch s.deployments DeploymentRow.id id (.deploymentUnwritable id)
      (.deploymentMissing id) with
  | error e =>
    cases fetch_eq_error_iff.mp hfetch with
    | gone hgone => simp [updateSteps, updateDeployment, hgone, Fault.toError, bind, Except.bind]
    | tooLarge hrows hlarge =>
      simp [updateSteps, updateDeployment, hrows, hlarge, Fault.toError, bind, Except.bind]
    | @absent rows hrows hfits habsent =>
      have hnone : rows.filter (·.id == id) = [] :=
        List.filter_eq_nil_iff.mpr fun row hrow => by simpa using habsent row hrow
      simp [updateSteps, updateDeployment, hrows, hfits, hnone, bind, Except.bind]
  | ok row =>
    obtain ⟨hfits, hrow⟩ := fetch_eq_ok_iff.mp hfetch
    by_cases hrefused : s.refused.contains a.status.text = true
    · unfold updateSteps
      rw [updateDeployment_of_refused hfits hrow hrefused]
      exact (if_pos hrefused).symm
    · have haccepted : s.refused.contains a.status.text = false := Bool.not_eq_true _ ▸ hrefused
      obtain ⟨n, hupdate⟩ := Admits.updateDeployment ⟨hfits, ⟨row, hrow⟩, haccepted⟩ now
      have hread : (s.assign now id a).fetchDeployment (.deploymentUnwritable id) id =
          (a.apply now row).read := by
        rw [fetchDeployment_eq, fetch_eq_ok_iff.mpr ⟨hfits, row?_assign_self hrow now a⟩]
        rfl
      unfold updateSteps
      rw [hupdate]
      exact hread.trans (if_neg hrefused).symm

/-- A row that was assigned to is not read for its stamps only. -/
lemma read_apply_eq_error_iff {e : Error} :
    (a.apply now row).read = .error e ↔ Unstamped row.created now e := by
  rw [DeploymentRow.read_eq_error_iff]
  constructor
  · intro h
    cases h with
    | unstamped unread => exact unread
    | unknown _ _ hstatus =>
      have hnone : Status.ofText? a.status.text = none := hstatus
      rw [Status.ofText?_text] at hnone
      cases hnone
  · intro h
    exact .unstamped h

/-- Why an update of the deployment `id` fails that writes at the moment `now`. -/
inductive Unwritten (now : String) (s : Store) (id : Int) (v : Json) : Error → Prop
  | unknown {e} (hstatus : statusOf v = .error e) : Unwritten now s id v e
  | unselected {status e} (hstatus : statusOf v = .ok status)
      (hrow : Unselected s.deployments DeploymentRow.id id (.deploymentUnwritable id)
        (.deploymentMissing id) e) : Unwritten now s id v e
  | refused {status row} (hstatus : statusOf v = .ok status)
      (hrow : Selected s.deployments DeploymentRow.id id row)
      (hrefused : s.refused.contains status.text = true) :
      Unwritten now s id v (.deploymentUnwritable id)
  /-- The update is carried out, and then the row cannot be read back. -/
  | unread {status row e} (hstatus : statusOf v = .ok status)
      (hrow : Selected s.deployments DeploymentRow.id id row)
      (haccepted : s.refused.contains status.text = false)
      (hread : Unstamped row.created now e) : Unwritten now s id v e

/-- Why an update of the deployment `id` fails whose error text may not be bound. -/
inductive Unrecorded (now : String) (s : Store) (id : Int) (v : Json)
    (error : Option (List Text.Point)) : Error → Prop
  | bound {text e} (hbound : bindError error = .ok text) (hwrite : Unwritten now s id v e) :
      Unrecorded now s id v error e
  | unknown {reason e} (hbound : bindError error = .error reason)
      (hstatus : statusOf v = .error e) : Unrecorded now s id v error e
  | gone {reason status} (hbound : bindError error = .error reason)
      (hstatus : statusOf v = .ok status) (hgone : s.deployments = none) :
      Unrecorded now s id v error (.deploymentUnwritable id)
  | unbound {reason status rows} (hbound : bindError error = .error reason)
      (hstatus : statusOf v = .ok status) (hrows : s.deployments = some rows) :
      Unrecorded now s id v error reason

/-- The update that both operations carry out: the status that a value names is written, and
perhaps an error text. -/
def write (now : String) (id : Int) (v : Json) (error : Option (Option String)) :
    Session Deployment := fun s =>
  match statusOf v with
  | .ok status => transact (updateSteps now id ⟨status, error⟩) s
  | .error e => (.error e, s)

/-- An update fails for one of the reasons that there are, and leaves the tables as they were. -/
lemma write_eq_error_iff {v : Json} {error : Option (Option String)} {t : Store} {e : Error} :
    write now id v error s = (.error e, t) ↔ t = s ∧ Unwritten now s id v e := by
  unfold write
  cases hstatus : statusOf v with
  | error e' =>
    dsimp only
    constructor
    · intro h
      cases h
      exact ⟨rfl, .unknown hstatus⟩
    · rintro ⟨rfl, h⟩
      cases h with
      | unknown hstatus' => rw [Except.error.inj (hstatus.symm.trans hstatus')]
      | unselected hstatus' _ | refused hstatus' _ _ | unread hstatus' _ _ _ =>
        rw [hstatus] at hstatus'
        cases hstatus'
  | ok status =>
    dsimp only
    rw [transact_eq_error_iff, updateSteps_result, Except.bind_eq_error_iff, fetch_eq_error_iff]
    refine and_congr_right fun _ => ?_
    constructor
    · rintro (hrow | ⟨row, hrow, h⟩)
      · exact .unselected hstatus hrow
      · rw [fetch_eq_ok_iff] at hrow
        split at h
        · rename_i hrefused
          cases h
          exact .refused hstatus hrow hrefused
        · rename_i haccepted
          exact .unread hstatus hrow (Bool.not_eq_true _ ▸ haccepted)
            (read_apply_eq_error_iff.mp h)
    · intro h
      cases h with
      | unknown hstatus' =>
        rw [hstatus] at hstatus'
        cases hstatus'
      | unselected _ hrow => exact .inl hrow
      | refused hstatus' hrow hrefused =>
        cases hstatus.symm.trans hstatus'
        exact .inr ⟨_, fetch_eq_ok_iff.mpr hrow, if_pos hrefused⟩
      | unread hstatus' hrow haccepted hread =>
        cases hstatus.symm.trans hstatus'
        refine .inr ⟨_, fetch_eq_ok_iff.mpr hrow, ?_⟩
        rw [if_neg (Bool.eq_false_iff.mp haccepted)]
        exact read_apply_eq_error_iff.mpr hread

/-- With an error text that is bound, an update fails for the reasons of any update. -/
lemma unrecorded_iff_of_bound {v : Json} {error : Option (List Text.Point)} {text : Option String}
    (hbound : bindError error = .ok text) {e : Error} :
    Unrecorded now s id v error e ↔ Unwritten now s id v e := by
  constructor
  · intro h
    cases h with
    | bound _ hwrite => exact hwrite
    | unknown hunbound _ | gone hunbound _ _ | unbound hunbound _ _ =>
      rw [hbound] at hunbound
      cases hunbound
  · exact .bound hbound

/-- An update with an error text fails for one of the reasons that there are, and leaves the tables as
they were. -/
lemma setStatusOfAndError_eq_error_iff {v : Json} {error : Option (List Text.Point)} {t : Store}
    {e : Error} :
    setStatusOfAndError now id v error s = (.error e, t) ↔
      t = s ∧ Unrecorded now s id v error e := by
  cases hbound : bindError error with
  | ok text =>
    have hwrite : setStatusOfAndError now id v error = write now id v (some text) := by
      funext s
      unfold setStatusOfAndError write
      rw [hbound]
      rfl
    rw [hwrite, write_eq_error_iff, unrecorded_iff_of_bound hbound]
  | error reason =>
    unfold setStatusOfAndError
    rw [hbound]
    cases hstatus : statusOf v with
    | error e' =>
      dsimp only
      constructor
      · intro h
        cases h
        exact ⟨rfl, .unknown hbound hstatus⟩
      · rintro ⟨rfl, h⟩
        cases h with
        | unknown _ hstatus' => rw [Except.error.inj (hstatus.symm.trans hstatus')]
        | bound hbound' _ =>
          rw [hbound] at hbound'
          cases hbound'
        | gone _ hstatus' _ | unbound _ hstatus' _ =>
          rw [hstatus] at hstatus'
          cases hstatus'
    | ok status =>
      dsimp only
      constructor
      · intro h
        cases hrows : s.deployments with
        | none =>
          rw [hrows] at h
          cases h
          exact ⟨rfl, .gone hbound hstatus hrows⟩
        | some rows =>
          rw [hrows] at h
          cases h
          exact ⟨rfl, .unbound hbound hstatus hrows⟩
      · rintro ⟨rfl, h⟩
        cases h with
        | bound hbound' _ =>
          rw [hbound] at hbound'
          cases hbound'
        | unknown _ hstatus' =>
          rw [hstatus] at hstatus'
          cases hstatus'
        | gone _ _ hgone => rw [hgone, Option.isNone_none, if_pos rfl]
        | unbound hbound' _ hrows =>
          rw [hrows, Except.error.inj (hbound.symm.trans hbound')]
          rfl

end Write

/-! ### The theorem -/

/-- Why an operation fails that writes at the moment `now`, if it writes. -/
def Operation.Fails (now : String) (s : Store) : Operation → Error → Prop
  | .getDeployment id, e =>
    Unselected s.deployments DeploymentRow.id id (.deploymentUnreadable id)
        (.deploymentMissing id) e ∨
      ∃ row, Selected s.deployments DeploymentRow.id id row ∧ row.Unreadable e
  | .getInstance id, e =>
    Unselected s.instances InstanceRow.id id (.instanceUnreadable id) (.instanceMissing id) e ∨
      ∃ row, Selected s.instances InstanceRow.id id row ∧ readStamp row.created = .error e
  | .updateStatus id v, e => Unwritten now s id v e
  | .setStatusAndError id v error, e => Unrecorded now s id v error e

section Failures

variable {now : String} {s t : Store} {op : Operation} {failure : Failure}

/-- A failure of an operation is a failure of the storage. -/
lemma map_mapError_eq_error_iff {α β : Type} {x : Except Error α} {f : α → β} :
    (x.mapError Failure.store).map f = .error failure ↔ ∃ e, x = .error e ∧ failure = .store e := by
  cases x with
  | error e => simp [Except.mapError, Except.map, eq_comm]
  | ok a => simp [Except.mapError, Except.map]

/-- Looking at the tables leaves them alone. -/
lemma run_inspect_eq_error_iff {α β : Type} {question : Store → Except Error α} {f : α → β} :
    (Except.map f <$> (inspect question : StateM Store (Except Failure α))).run s =
        (.error failure, t) ↔
      t = s ∧ ∃ e, question s = .error e ∧ failure = .store e := by
  have hrun : (Except.map f <$> (inspect question : StateM Store (Except Failure α))).run s =
      (((question s).mapError Failure.store).map f, s) := rfl
  rw [hrun, Prod.mk.injEq, map_mapError_eq_error_iff, and_comm, @eq_comm _ s t]

/-- An update that fails in the store that is kept as state has failed in the store. -/
lemma run_perform_eq_error_iff {α β : Type} {steps : Session α} {f : α → β} :
    (Except.map f <$> (perform steps : StateM Store (Except Failure α))).run s =
        (.error failure, t) ↔
      ∃ e, steps s = (.error e, t) ∧ failure = .store e := by
  have hrun : (Except.map f <$> (perform steps : StateM Store (Except Failure α))).run s =
      (((steps s).1.mapError Failure.store).map f, (steps s).2) := rfl
  rw [hrun, Prod.mk.injEq, map_mapError_eq_error_iff]
  constructor
  · rintro ⟨⟨e, he, hfailure⟩, ht⟩
    exact ⟨e, Prod.ext he ht, hfailure⟩
  · rintro ⟨e, h, hfailure⟩
    exact ⟨⟨e, congrArg Prod.fst h, hfailure⟩, congrArg Prod.snd h⟩

/-- An operation fails for one of the reasons that there are, and leaves the tables as they were. -/
lemma Operation.run_eq_error_iff : (op.run now).run s = (.error failure, t) ↔
    t = s ∧ ∃ e, op.Fails now s e ∧ failure = .store e := by
  cases op with
  | getDeployment id =>
    refine run_inspect_eq_error_iff.trans (and_congr_right fun _ => exists_congr fun e => ?_)
    refine and_congr_left fun _ => ?_
    unfold Store.getDeployment
    simp only [fetchDeployment_eq, Except.bind_eq_error_iff, fetch_eq_error_iff, fetch_eq_ok_iff,
      DeploymentRow.read_eq_error_iff]
    rfl
  | getInstance id =>
    refine run_inspect_eq_error_iff.trans (and_congr_right fun _ => exists_congr fun e => ?_)
    refine and_congr_left fun _ => ?_
    simp only [getInstance_eq, Except.bind_eq_error_iff, fetch_eq_error_iff, fetch_eq_ok_iff,
      InstanceRow.read_eq_error_iff]
    rfl
  | updateStatus id v =>
    have hwrite : ∀ e, updateStatusOf now id v s = (.error e, t) ↔
      t = s ∧ Unwritten now s id v e := fun _ => @write_eq_error_iff s now id v none t _
    refine run_perform_eq_error_iff.trans ?_
    simp only [hwrite, and_assoc, exists_and_left]
    rfl
  | setStatusAndError id v error =>
    refine run_perform_eq_error_iff.trans ?_
    simp only [setStatusOfAndError_eq_error_iff, and_assoc, exists_and_left]
    rfl

/-- The kind of the failure to read a value as a time stamp. -/
def Cell.fault : Cell → String
  | .text _ => "ValueError"
  | .integer _ | .real _ | .blob _ => "TypeError"

/-- A stored value is not read as a time stamp for what it is. -/
lemma kind_of_readStamp {cell : Cell} {e : Error} (h : readStamp cell = .error e) :
    e.kind = cell.fault := by
  cases cell with
  | text text =>
    unfold readStamp at h
    dsimp only at h
    split at h
    all_goals cases h
    all_goals rfl
  | integer _ | real _ | blob _ =>
    cases h
    rfl

/-- No stored value is reported as missing. -/
lemma Cell.fault_ne_missing (cell : Cell) : cell.fault ≠ "DeploymentNotFoundError" := by
  cases cell <;> simp [Cell.fault]

/-- A value that names no status is a refused value. -/
lemma exists_refused_of_statusOf {v : Json} {e : Error} (h : statusOf v = .error e) :
    ∃ reason, e = .refused reason := by
  unfold statusOf at h
  split at h
  · split at h
    · cases h
    · cases h
      exact ⟨_, rfl⟩
  · cases h
    exact ⟨_, rfl⟩

/-- The statement of an update is executed and matches no row. -/
lemma updateDeployment_eq_zero_iff {id : Int} {a : Assignment} :
    (s.updateDeployment now id a).1 = .ok 0 ↔
      ∃ rows, s.deployments = some rows ∧ idFits id = true ∧ ∀ row ∈ rows, row.id ≠ id := by
  constructor
  · intro h
    unfold updateDeployment at h
    split at h
    · cases h
    · rename_i rows hrows
      dsimp only at h
      split at h
      · rename_i hfits
        split at h
        · rename_i hnone
          refine ⟨rows, hrows, hfits, fun row hrow hid => ?_⟩
          have hmem : row ∈ rows.filter (·.id == id) :=
            List.mem_filter.mpr ⟨hrow, beq_iff_eq.mpr hid⟩
          rw [List.length_eq_zero_iff.mp hnone] at hmem
          cases hmem
        · rename_i hsome
          split at h
          · cases h
          · exact absurd (Except.ok.inj h) hsome
      · cases h
  · rintro ⟨rows, hrows, hfits, habsent⟩
    have hnone : rows.filter (·.id == id) = [] :=
      List.filter_eq_nil_iff.mpr fun row hrow => by simpa using habsent row hrow
    simp [updateDeployment, hrows, hfits, hnone]

/-- An update says that its deployment is missing exactly if its statement matches no row. -/
lemma Unwritten.missing_iff {id : Int} {v : Json} (error : Option (Option String)) :
    (∃ e, Unwritten now s id v e ∧ e.kind = "DeploymentNotFoundError") ↔
      ∃ status, statusOf v = .ok status ∧
        (s.updateDeployment now id ⟨status, error⟩).1 = .ok 0 := by
  simp only [updateDeployment_eq_zero_iff]
  constructor
  · rintro ⟨e, h, hkind⟩
    cases h with
    | unknown hstatus =>
      obtain ⟨reason, rfl⟩ := exists_refused_of_statusOf hstatus
      simp [Error.kind] at hkind
    | unselected hstatus hrow =>
      cases hrow with
      | gone _ | tooLarge _ _ => simp [Error.kind] at hkind
      | absent hrows hfits habsent => exact ⟨_, hstatus, _, hrows, hfits, habsent⟩
    | refused _ _ _ => simp [Error.kind] at hkind
    | unread _ _ _ hread =>
      cases hread with
      | created hunread | updated _ hunread =>
        exact absurd ((kind_of_readStamp hunread).symm.trans hkind) (Cell.fault_ne_missing _)
  · rintro ⟨status, hstatus, rows, hrows, hfits, habsent⟩
    exact ⟨_, .unselected hstatus (.absent hrows hfits habsent), rfl⟩

/-- An error text with an encoding is bound. -/
lemma bindError_of_encoded {ps : List Text.Point} {text : String} (h : Text.ofPoints ps = .ok text) :
    bindError (some ps) = .ok (some text) := by
  unfold bindError
  dsimp only
  rw [h]
  rfl

/-- An error text without one is not bound. -/
lemma bindError_of_unencodable {ps : List Text.Point} {reason : Text.Unencodable}
    (h : Text.ofPoints ps = .error reason) : bindError (some ps) = .error (.unencodable reason) := by
  unfold bindError
  dsimp only
  rw [h]
  rfl

/-- What cannot be bound has no encoding. -/
lemma exists_unencodable_of_bindError {error : Option (List Text.Point)} {e : Error}
    (h : bindError error = .error e) : ∃ reason, e = .unencodable reason := by
  cases error with
  | none => cases h
  | some ps =>
    cases hencoded : Text.ofPoints ps with
    | ok text =>
      rw [bindError_of_encoded hencoded] at h
      cases h
    | error reason =>
      rw [bindError_of_unencodable hencoded] at h
      cases h
      exact ⟨reason, rfl⟩

/-- An update whose error text is not bound does not say that its deployment is missing. -/
lemma Unrecorded.not_missing {id : Int} {v : Json} {error : Option (List Text.Point)}
    {reason e : Error} (h : Unrecorded now s id v error e) (hbound : bindError error = .error reason) :
    e.kind ≠ "DeploymentNotFoundError" := by
  cases h with
  | bound hbound' _ =>
    rw [hbound] at hbound'
    cases hbound'
  | unknown _ hstatus =>
    obtain ⟨_, rfl⟩ := exists_refused_of_statusOf hstatus
    simp [Error.kind]
  | gone _ _ _ => simp [Error.kind]
  | unbound hbound' _ _ =>
    obtain ⟨_, rfl⟩ := exists_unencodable_of_bindError hbound'
    simp [Error.kind]

/-- The statement of an update is that of the status which its value names. -/
lemma exists_statement_iff (P : Int → Assignment → Prop) (id : Int) (v : Json)
    (error : Option (Option String)) :
    (∃ status, statusOf v = .ok status ∧ P id ⟨status, error⟩) ↔
      ∃ i a, (statusOf v).toOption.map (fun status => (id, ⟨status, error⟩)) = some (i, a) ∧
        P i a := by
  cases statusOf v with
  | error e => simp [Except.toOption]
  | ok status => simp [Except.toOption]

/-- An update finds no deployment exactly if it executes a statement that matches no row. -/
lemma Operation.missing_iff (hupdate : op.isRead = false) :
    (∃ failure t, (op.run now).run s = (.error failure, t) ∧
        failure.kind = "DeploymentNotFoundError") ↔
      ∃ id a, op.statement? = some (id, a) ∧ (s.updateDeployment now id a).1 = .ok 0 := by
  have hfails : (∃ failure t, (op.run now).run s = (.error failure, t) ∧
      failure.kind = "DeploymentNotFoundError") ↔
        ∃ e, op.Fails now s e ∧ e.kind = "DeploymentNotFoundError" := by
    constructor
    · rintro ⟨failure, t, h, hkind⟩
      obtain ⟨_, e, he, rfl⟩ := Operation.run_eq_error_iff.mp h
      exact ⟨e, he, hkind⟩
    · rintro ⟨e, he, hkind⟩
      exact ⟨.store e, s, Operation.run_eq_error_iff.mpr ⟨rfl, e, he, rfl⟩, hkind⟩
  rw [hfails]
  cases op with
  | getDeployment id | getInstance id => cases hupdate
  | updateStatus id v =>
    exact (Unwritten.missing_iff none).trans
      (exists_statement_iff (fun i a => (s.updateDeployment now i a).1 = .ok 0) id v none)
  | setStatusAndError id v error =>
    unfold Operation.Fails Operation.statement?
    dsimp only
    cases hbound : bindError error with
    | ok text =>
      simp only [unrecorded_iff_of_bound hbound]
      exact (Unwritten.missing_iff (some text)).trans
        (exists_statement_iff (fun i a => (s.updateDeployment now i a).1 = .ok 0) id v (some text))
    | error reason =>
      constructor
      · rintro ⟨e, h, hkind⟩
        exact absurd hkind (h.not_missing hbound)
      · rintro ⟨_, _, hnone, _⟩
        cases hnone

end Failures

/-- An operation that fails, for whatever reason, leaves all tables as they were, and `Fails` lists
the reasons; so does a transaction of any other steps.  An operation that only reads leaves them
alone in any case.  An update says that there is no deployment exactly if its statement could be
executed and matched no row. -/
theorem operations_atomic (now : String) (op : Operation) (s : Store) :
    (∀ failure t, (op.run now).run s = (.error failure, t) ↔
      t = s ∧ ∃ e, op.Fails now s e ∧ failure = .store e) ∧
    (∀ {α : Type} (steps : Session α) e t, transact steps s = (.error e, t) → t = s) ∧
    (op.isRead = true → ((op.run now).run s).2 = s) ∧
    (op.isRead = false →
      ((∃ failure t, (op.run now).run s = (.error failure, t) ∧
          failure.kind = "DeploymentNotFoundError") ↔
        ∃ id a, op.statement? = some (id, a) ∧ (s.updateDeployment now id a).1 = .ok 0)) := by
  refine ⟨fun failure t => Operation.run_eq_error_iff,
    fun steps e t h => (transact_eq_error_iff.mp h).1, fun hread => ?_, Operation.missing_iff⟩
  cases op with
  | getDeployment id | getInstance id => rfl
  | updateStatus id v | setStatusAndError id v error => cases hread

/-- A running deployment whose time of creation cannot be read. -/
def misdated : Store where
  instances := none
  deployments := some [⟨1, 1, "running", none, "yesterday", "2020-01-02 03:04:05"⟩]

/-- An update of it is carried out before the row is read back, and then undone.  An update of
another deployment finds none, and the missing table of the instances is not noticed before it is
read. -/
theorem misdated_atomic :
    let update : Operation := .setStatusAndError 1 (.str "stopping") none
    let other : Operation := .updateStatus 2 (.str "stopping")
    (updateSteps "2020-01-02 03:04:06" 1 ⟨.stopping, some none⟩ misdated).2 ≠ misdated ∧
    (∃ failure, (update.run "2020-01-02 03:04:06").run misdated = (.error failure, misdated) ∧
      failure.kind = "ValueError") ∧
    (∃ failure t, (other.run "2020-01-02 03:04:06").run misdated = (.error failure, t) ∧
      failure.kind = "DeploymentNotFoundError") ∧
    ((Operation.run "2020-01-02 03:04:06" (.getInstance 1)).run misdated).2 = misdated := by
  intro update other
  obtain ⟨hfails, _, _, _⟩ := operations_atomic "2020-01-02 03:04:06" update misdated
  obtain ⟨_, _, _, hmissing⟩ := operations_atomic "2020-01-02 03:04:06" other misdated
  obtain ⟨_, _, hreads, _⟩ :=
    operations_atomic "2020-01-02 03:04:06" (.getInstance 1) misdated
  refine ⟨by decide, ⟨.store (.refused (.unreadableStamp (Text.quoted "yesterday"))), ?_, rfl⟩, ?_,
    hreads rfl⟩
  · have hunread : Unwritten "2020-01-02 03:04:06" misdated 1 (.str "stopping")
        (.refused (.unreadableStamp (Text.quoted "yesterday"))) :=
      .unread rfl ⟨by decide, rfl⟩ rfl (.created rfl)
    exact (hfails _ _).mpr ⟨rfl, _, .bound rfl hunread, rfl⟩
  · exact (hmissing rfl).mpr ⟨2, ⟨.stopping, none⟩, rfl, rfl⟩

end Store

end Teardown
