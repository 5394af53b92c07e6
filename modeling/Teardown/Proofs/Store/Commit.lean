import Teardown.Proofs.Except
import Teardown.Store.Operation

/-!
# Rows and committed writes

`row?` is the view of the deployments by which operations are described: the row that a look-up by
id finds.  `Commits` says what a write that succeeds does to the tables: the deployment has a row,
its status and its error text are replaced, and nothing else changes.

Every operation looks up one row, and `fetch` is this look-up for either table: it has a row, or it
fails as `Unselected` says.  `getDeployment_ok` and `getInstance_id` say what the reading operations
find.  `setStatusAndError_ok` and `setStatusAndError_error` describe a write by `Commits`, from what
a transaction does that succeeds or fails.
-/

namespace Teardown

namespace Status

/-- The text determines the status. -/
lemma text_of_ofText? {text : String} {status : Status} (h : ofText? text = some status) :
    status.text = text := by
  unfold ofText? at h
  have hfound : (status.text == text) = true := by
    simpa using List.find?_some h
  exact beq_iff_eq.mp hfound

/-- Different statuses have different texts. -/
lemma eq_of_text_eq {a b : Status} (h : a.text = b.text) : a = b :=
  Option.some.inj ((ofText?_text a).symm.trans ((congrArg ofText? h).trans (ofText?_text b)))

end Status

namespace Store

/-! ### The view by rows -/

/-- The row of a deployment, as a look-up by id finds it. -/
def row? (s : Store) (id : Int) : Option DeploymentRow :=
  (s.deployments.getD []).find? (·.id == id)

/-- The tables after an assignment to the row of a deployment. -/
def assign (s : Store) (now : String) (id : Int) (a : Assignment) : Store :=
  { s with
    deployments := s.deployments.map fun rows =>
      rows.map fun row => if row.id == id then a.apply now row else row }

lemma row?_id {s : Store} {id : Int} {row : DeploymentRow} (h : s.row? id = some row) :
    row.id = id := by
  simpa using List.find?_some h

/-- Looking up a row after an assignment. -/
lemma row?_assign (s : Store) (now : String) (id other : Int) (a : Assignment) :
    (s.assign now id a).row? other =
      (s.row? other).map fun row => if row.id == id then a.apply now row else row := by
  unfold row? assign
  cases s.deployments with
  | none => rfl
  | some rows =>
    simp only [Option.map_some, Option.getD_some, List.find?_map]
    congr 2
    funext row
    dsimp only [Function.comp]
    split <;> rfl

/-- An assignment reaches the row of its deployment. -/
lemma row?_assign_self {s : Store} {id : Int} {row : DeploymentRow} (h : s.row? id = some row)
    (now : String) (a : Assignment) : (s.assign now id a).row? id = some (a.apply now row) := by
  rw [row?_assign, h]
  simp [row?_id h]

/-- An assignment leaves every other row alone. -/
lemma row?_assign_of_ne (s : Store) (now : String) {id other : Int} (a : Assignment)
    (hne : other ≠ id) : (s.assign now id a).row? other = s.row? other := by
  rw [row?_assign]
  cases h : s.row? other with
  | none => rfl
  | some row => simp [row?_id h, hne]

/-! ### Committed writes -/

/-- A write of a status and an error text that takes the tables from `s` to `t`. -/
def Commits (id : Int) (status : Status) (error : Option String) (s t : Store) : Prop :=
  ∃ row now, s.row? id = some row ∧ t = s.assign now id ⟨status, some error⟩

namespace Commits

variable {id : Int} {status : Status} {error : Option String} {s t : Store}

/-- The row before a committed write and the row after it. -/
lemma rows (h : Commits id status error s t) :
    ∃ row now, s.row? id = some row ∧
      t.row? id = some { row with status := status.text, error := error, updated := now } := by
  obtain ⟨row, now, hrow, rfl⟩ := h
  exact ⟨row, now, hrow, row?_assign_self hrow now _⟩

/-- A committed write leaves every other row alone. -/
lemma row?_of_ne (h : Commits id status error s t) {other : Int} (hne : other ≠ id) :
    t.row? other = s.row? other := by
  obtain ⟨_, now, _, rfl⟩ := h
  exact row?_assign_of_ne s now _ hne

/-- A committed write leaves the instances alone. -/
lemma instances (h : Commits id status error s t) : t.instances = s.instances := by
  obtain ⟨_, _, _, rfl⟩ := h
  rfl

end Commits

/-! ### Looking up one row -/

section Fetch

variable {α : Type} (table : Option (List α)) (idOf : α → Int) (id : Int)

/-- The row with an id, with a failure for a statement that fails and one for a missing row. -/
def fetch (unreadable missing : Error) : Except Error α :=
  match table with
  | none => .error unreadable
  | some rows =>
    if idFits id then
      match rows.find? (idOf · == id) with
      | none => .error missing
      | some row => .ok row
    else .error .idTooLarge

/-- The row with an id is found in a table. -/
structure Selected (row : α) : Prop where
  fits : idFits id = true
  found : (table.getD []).find? (idOf · == id) = some row

/-- Why no row with an id is found in a table. -/
inductive Unselected (unreadable missing : Error) : Error → Prop
  | gone : table = none → Unselected unreadable missing unreadable
  | tooLarge {rows} : table = some rows → idFits id = false →
      Unselected unreadable missing .idTooLarge
  | absent {rows} : table = some rows → idFits id = true → (∀ row ∈ rows, idOf row ≠ id) →
      Unselected unreadable missing missing

variable {table idOf id} {unreadable missing e : Error} {row : α}

lemma fetch_eq_ok_iff :
    fetch table idOf id unreadable missing = .ok row ↔ Selected table idOf id row := by
  constructor
  · intro h
    unfold fetch at h
    split at h
    · cases h
    · split at h
      · rename_i hfits
        split at h
        · cases h
        · rename_i hfound
          cases h
          exact ⟨hfits, hfound⟩
      · cases h
  · rintro ⟨hfits, hfound⟩
    cases table with
    | none => cases hfound
    | some rows =>
      have hrow : rows.find? (idOf · == id) = some row := hfound
      simp only [fetch, hfits, hrow, if_true]

lemma fetch_eq_error_iff :
    fetch table idOf id unreadable missing = .error e ↔
      Unselected table idOf id unreadable missing e := by
  constructor
  · intro h
    unfold fetch at h
    split at h
    · cases h
      exact .gone rfl
    · split at h
      · rename_i hfits
        split at h
        · rename_i hnone
          cases h
          refine .absent rfl hfits fun row hrow hid => ?_
          simpa [hid] using List.find?_eq_none.mp hnone row hrow
        · cases h
      · rename_i hlarge
        cases h
        exact .tooLarge rfl (Bool.not_eq_true _ ▸ hlarge)
  · intro h
    cases h with
    | gone hgone =>
      subst hgone
      rfl
    | tooLarge hrows hlarge =>
      subst hrows
      simp [fetch, hlarge]
    | @absent rows hrows hfits habsent =>
      subst hrows
      have hnone : rows.find? (idOf · == id) = none :=
        List.find?_eq_none.mpr fun row hrow => by simpa using habsent row hrow
      simp only [fetch, hfits, hnone, if_true]

end Fetch

section Read

variable {s t : Store} {id : Int} {unreadable : Error}

/-- Reading a deployment is looking up its row and reading that. -/
lemma fetchDeployment_eq : s.fetchDeployment unreadable id =
    fetch s.deployments DeploymentRow.id id unreadable (.deploymentMissing id) >>=
      DeploymentRow.read := by
  unfold fetchDeployment selectDeployment fetch
  cases s.deployments with
  | none => rfl
  | some rows =>
    by_cases hfits : idFits id = true
    · simp only [hfits, if_true]
      cases rows.find? (·.id == id) <;> rfl
    · simp only [hfits]
      rfl

/-- Reading an instance is looking up its row and reading that. -/
lemma getInstance_eq : s.getInstance id =
    fetch s.instances InstanceRow.id id (.instanceUnreadable id) (.instanceMissing id) >>=
      InstanceRow.read := by
  unfold getInstance selectInstance fetch
  cases s.instances with
  | none => rfl
  | some rows =>
    by_cases hfits : idFits id = true
    · simp only [hfits, if_true]
      cases rows.find? (·.id == id) <;> rfl
    · simp only [hfits]
      rfl

/-- What a deployment is read as does not depend on the failure that a statement would have. -/
lemma fetchDeployment_ok {other : Error} {d : Deployment}
    (h : s.fetchDeployment unreadable id = .ok d) : s.fetchDeployment other id = .ok d := by
  rw [fetchDeployment_eq] at h ⊢
  obtain ⟨row, hrow, hread⟩ := Except.exists_of_bind_eq_ok h
  rw [fetch_eq_ok_iff.mpr (fetch_eq_ok_iff.mp hrow)]
  exact hread

/-- A row that is read gives its own status and instance. -/
lemma DeploymentRow.read_ok {row : DeploymentRow} {d : Deployment} (h : row.read = .ok d) :
    row.status = d.status.text ∧ row.instanceId = d.instanceId := by
  unfold DeploymentRow.read at h
  obtain ⟨createdAt, _, h⟩ := Except.exists_of_bind_eq_ok h
  obtain ⟨updatedAt, _, h⟩ := Except.exists_of_bind_eq_ok h
  split at h
  · rename_i status hstatus
    cases h
    exact ⟨(Status.text_of_ofText? hstatus).symm, rfl⟩
  · cases h

/-- A deployment that is read comes from its row. -/
theorem getDeployment_ok {d : Deployment} (h : s.getDeployment id = .ok d) :
    ∃ row, s.row? id = some row ∧ row.status = d.status.text ∧ row.instanceId = d.instanceId := by
  unfold getDeployment at h
  rw [fetchDeployment_eq] at h
  obtain ⟨row, hrow, hread⟩ := Except.exists_of_bind_eq_ok h
  exact ⟨row, (fetch_eq_ok_iff.mp hrow).found, DeploymentRow.read_ok hread⟩

/-- An instance that is read has the id that was asked for. -/
theorem getInstance_id {i : Instance} (h : s.getInstance id = .ok i) : i.id = id := by
  rw [getInstance_eq] at h
  obtain ⟨row, hrow, hread⟩ := Except.exists_of_bind_eq_ok h
  obtain ⟨createdAt, _, hinstance⟩ := Except.exists_of_bind_eq_ok hread
  cases hinstance
  simpa using List.find?_some (fetch_eq_ok_iff.mp hrow).found

/-- What a reading of an instance finds depends on the instances only. -/
lemma getInstance_congr (h : t.instances = s.instances) (id : Int) :
    t.getInstance id = s.getInstance id := by
  rw [getInstance_eq, getInstance_eq, h]

end Read

/-! ### The operations -/

/-- An update of a row that succeeds is an assignment. -/
lemma updateDeployment_ok {now : String} {id : Int} {a : Assignment} {s t : Store} {n : Nat}
    (h : s.updateDeployment now id a = (.ok (n + 1), t)) :
    (∃ row, s.row? id = some row) ∧ t = s.assign now id a := by
  unfold updateDeployment at h
  cases hrows : s.deployments with
  | none => simp [hrows] at h
  | some rows =>
    simp only [hrows] at h
    split at h
    · split at h
      · simp at h
      · rename_i hmatched
        split at h
        · simp at h
        · refine ⟨?_, ?_⟩
          · obtain ⟨row, hrow⟩ := List.exists_mem_of_length_pos (Nat.pos_of_ne_zero hmatched)
            have hfound : (rows.find? (·.id == id)).isSome = true := by
              rw [List.find?_isSome]
              exact ⟨row, (List.mem_filter.mp hrow).1, (List.mem_filter.mp hrow).2⟩
            simpa [row?, hrows] using Option.isSome_iff_exists.mp hfound
          · simp only [Prod.mk.injEq] at h
            rw [← h.2, assign, hrows]
            rfl
    · simp at h

/-- A transaction succeeds if its steps do. -/
lemma transact_eq_ok_iff {α : Type} {steps : Session α} {s t : Store} {x : α} :
    transact steps s = (.ok x, t) ↔ steps s = (.ok x, t) := by
  unfold transact
  split
  · rename_i hsteps
    rw [hsteps]
  · rename_i hsteps
    simp [hsteps]

/-- A transaction fails if its steps do, and then leaves the tables as they were. -/
lemma transact_eq_error_iff {α : Type} {steps : Session α} {s t : Store} {e : Error} :
    transact steps s = (.error e, t) ↔ t = s ∧ (steps s).1 = .error e := by
  unfold transact
  split
  · rename_i b u hsteps
    simp [hsteps]
  · rename_i e' u hsteps
    simp [hsteps, and_comm, eq_comm]

/-- The steps of an update succeed if a row is updated and then read. -/
lemma updateSteps_eq_ok_iff {now : String} {id : Int} {a : Assignment} {s t : Store}
    {d : Deployment} : updateSteps now id a s = (.ok d, t) ↔
      (∃ n, s.updateDeployment now id a = (.ok (n + 1), t)) ∧
        t.fetchDeployment (.deploymentUnwritable id) id = .ok d := by
  unfold updateSteps
  constructor
  · intro h
    split at h
    · cases h
    · cases h
    · rename_i n u hn hupdate
      obtain ⟨k, rfl⟩ := Nat.exists_eq_succ_of_ne_zero hn
      obtain ⟨hfetched, rfl⟩ := Prod.mk.inj h
      exact ⟨⟨k, hupdate⟩, hfetched⟩
  · rintro ⟨⟨n, hupdate⟩, hfetched⟩
    simp only [hupdate, hfetched]

/-- A write of a status and an error text that succeeds is a committed write. -/
theorem setStatusAndError_ok {now : String} {id : Int} {status : Status} {error : Option String}
    {s t : Store} {d : Deployment} (h : s.setStatusAndError now id status error = (.ok d, t)) :
    Commits id status error s t := by
  obtain ⟨⟨n, hupdate⟩, _⟩ := updateSteps_eq_ok_iff.mp (transact_eq_ok_iff.mp h)
  obtain ⟨⟨row, hrow⟩, ht⟩ := updateDeployment_ok hupdate
  exact ⟨row, now, hrow, ht⟩

/-- After a write that succeeds the deployment is read as the write has returned it. -/
lemma getDeployment_of_setStatusAndError {now : String} {id : Int} {status : Status}
    {error : Option String} {s t : Store} {d : Deployment}
    (h : s.setStatusAndError now id status error = (.ok d, t)) : t.getDeployment id = .ok d :=
  fetchDeployment_ok (updateSteps_eq_ok_iff.mp (transact_eq_ok_iff.mp h)).2

/-- A write that fails leaves the tables as they were. -/
theorem setStatusAndError_error {now : String} {id : Int} {status : Status}
    {error : Option String} {s t : Store} {e : Error}
    (h : s.setStatusAndError now id status error = (.error e, t)) : t = s :=
  (transact_eq_error_iff.mp h).1

end Store

end Teardown
