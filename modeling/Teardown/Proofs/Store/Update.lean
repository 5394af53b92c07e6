import Mathlib.Data.List.Forall2
import Mathlib.Tactic.Lemma
import Teardown.Proofs.Store.Commit

/-!
# What an update changes

The two updates of a deployment carry out an `Assignment` in a transaction, and differ only in
whether the error text is assigned.  `Update.run_eq_ok_iff` says when an update succeeds and with
which record: the storage admits it, and the stamps of the row can be read back.

From this the frame of an update is read off row by row (`Updates`).  Updates of different
deployments commute, since neither touches the row of the other.  For one deployment, `blanked`
forgets what updates write; an update leaves the blanked tables alone, and an update of both status
and error text needs no more than them, so that no earlier update of the deployment shows after it.
-/

namespace Teardown.Store

/-! ### The two updates -/

/-- An update of a deployment. -/
inductive Update where
  /-- Writes a status and keeps the error text. -/
  | keeping (status : Status)
  /-- Writes a status together with an error text, or with none. -/
  | setting (status : Status) (error : Option String)

namespace Update

/-- The operation that carries out an update. -/
def run (now : String) (id : Int) : Update → Session Deployment
  | .keeping status => updateStatus now id status
  | .setting status error => setStatusAndError now id status error

/-- What an update assigns to its row. -/
def assignment : Update → Assignment
  | .keeping status => ⟨status, none⟩
  | .setting status error => ⟨status, some error⟩

/-- Both updates are one transaction. -/
lemma run_eq (now : String) (id : Int) (u : Update) :
    u.run now id = transact (updateSteps now id u.assignment) := by
  cases u with
  | keeping status => rfl
  | setting status error => rfl

end Update

/-- The storage admits an update: its id can be bound, there is a row for it, and the status is not
refused. -/
structure Admits (s : Store) (id : Int) (status : Status) : Prop where
  fits : idFits id = true
  present : ∃ row, s.row? id = some row
  accepted : s.refused.contains status.text = false

section Success

variable {now : String} {id : Int} {a : Assignment} {s t : Store} {n : Nat} {row : DeploymentRow}
variable {d : Deployment}

/-- A row is read when its id is asked for. -/
lemma getDeployment_of_row? (hfits : idFits id = true) (hrow : s.row? id = some row) :
    s.getDeployment id = row.read := by
  have hfetch : fetch s.deployments DeploymentRow.id id (.deploymentUnreadable id)
      (.deploymentMissing id) = .ok row := fetch_eq_ok_iff.mpr ⟨hfits, hrow⟩
  unfold getDeployment
  rw [fetchDeployment_eq, hfetch]
  rfl

/-- A statement that is admitted matches a row and carries out its assignment. -/
lemma Admits.updateDeployment (h : s.Admits id a.status) (now : String) :
    ∃ n, s.updateDeployment now id a = (.ok (n + 1), s.assign now id a) := by
  obtain ⟨hfits, ⟨row, hrow⟩, haccepted⟩ := h
  unfold row? at hrow
  unfold Store.updateDeployment assign
  cases hrows : s.deployments with
  | none =>
    rw [hrows] at hrow
    cases hrow
  | some rows =>
    rw [hrows] at hrow
    have hmatched : (rows.filter (·.id == id)).length ≠ 0 := by
      have hmem := List.mem_of_find?_eq_some hrow
      have hid := List.find?_some hrow
      exact List.length_pos_iff_ne_nil.mp
        (List.length_pos_of_mem (List.mem_filter.mpr ⟨hmem, hid⟩)) ∘ List.length_eq_zero_iff.mp
    obtain ⟨n, hn⟩ := Nat.exists_eq_succ_of_ne_zero hmatched
    refine ⟨n, ?_⟩
    dsimp only
    rw [if_pos hfits, if_neg hmatched, if_neg (Bool.not_eq_true _ ▸ haccepted), hn]
    rfl

/-- A statement that matches a row was admitted. -/
lemma admits_of_updateDeployment (h : s.updateDeployment now id a = (.ok (n + 1), t)) :
    s.Admits id a.status := by
  have hpresent := (updateDeployment_ok h).1
  unfold Store.updateDeployment at h
  split at h
  · cases h
  · dsimp only at h
    split at h
    · rename_i hfits
      split at h
      · cases h
      · split at h
        · cases h
        · rename_i haccepted
          exact ⟨hfits, hpresent, Bool.not_eq_true _ ▸ haccepted⟩
    · cases h

/-- What is read back after an assignment. -/
lemma read_apply_iff : (a.apply now row).read = .ok d ↔ ∃ created updated,
    readStamp row.created = .ok created ∧ readStamp now = .ok updated ∧
      d = ⟨row.id, row.instanceId, a.status, a.error.getD row.error, created, updated⟩ := by
  unfold DeploymentRow.read Assignment.apply
  dsimp only
  rw [Status.ofText?_text]
  constructor
  · intro h
    obtain ⟨created, hcreated, h⟩ := Except.exists_of_bind_eq_ok h
    obtain ⟨updated, hupdated, h⟩ := Except.exists_of_bind_eq_ok h
    exact ⟨created, updated, hcreated, hupdated, (Except.ok.inj h).symm⟩
  · rintro ⟨created, updated, hcreated, hupdated, rfl⟩
    rw [hcreated, hupdated]
    rfl

/-- An update succeeds exactly if it is admitted and its row can be read back. -/
theorem Update.run_eq_ok_iff {u : Update} : u.run now id s = (.ok d, t) ↔
    s.Admits id u.assignment.status ∧ t = s.assign now id u.assignment ∧
      ∃ row, s.row? id = some row ∧ (u.assignment.apply now row).read = .ok d := by
  rw [Update.run_eq, transact_eq_ok_iff, updateSteps_eq_ok_iff]
  constructor
  · rintro ⟨⟨n, hupdate⟩, hfetched⟩
    have hadmits := admits_of_updateDeployment hupdate
    obtain ⟨⟨row, hrow⟩, rfl⟩ := updateDeployment_ok hupdate
    refine ⟨hadmits, rfl, row, hrow, ?_⟩
    rw [← getDeployment_of_row? hadmits.fits (row?_assign_self hrow now u.assignment)]
    exact fetchDeployment_ok hfetched
  · rintro ⟨hadmits, rfl, row, hrow, hread⟩
    refine ⟨hadmits.updateDeployment now, ?_⟩
    have hgot : (s.assign now id u.assignment).getDeployment id = .ok d := by
      rw [← hread]
      exact getDeployment_of_row? hadmits.fits (row?_assign_self hrow now u.assignment)
    exact fetchDeployment_ok hgot

/-- An update that fails leaves the tables as they were. -/
lemma Update.run_error {u : Update} {e : Error} (h : u.run now id s = (.error e, t)) : t = s := by
  rw [Update.run_eq] at h
  exact (transact_eq_error_iff.mp h).1

end Success

/-! ### The frame -/

/-- What an update of the deployment `id` makes of a row. -/
structure DeploymentRow.Becomes (id : Int) (status : Status)
    (error : Option String → Option String) (row row' : DeploymentRow) : Prop where
  id_eq : row'.id = row.id
  instanceId_eq : row'.instanceId = row.instanceId
  created_eq : row'.created = row.created
  own : row.id = id → row'.status = status.text ∧ row'.error = error row.error
  other : row.id ≠ id → row' = row

/-- What an update of the deployment `id` that returns `d` makes of the tables.  Rows correspond in
their order, so that none is created or removed. -/
structure Updates (id : Int) (status : Status) (error : Option String → Option String)
    (d : Deployment) (s t : Store) : Prop where
  rows : ∃ before after, s.deployments = some before ∧ t.deployments = some after ∧
    List.Forall₂ (DeploymentRow.Becomes id status error) before after
  present : ∃ row, s.row? id = some row ∧
    d.id = id ∧ d.instanceId = row.instanceId ∧ d.status = status ∧ d.error = error row.error
  instances : t.instances = s.instances
  refused : t.refused = s.refused
  read : t.getDeployment id = .ok d

/-- An assignment becomes every row. -/
lemma becomes_apply (now : String) (id : Int) (a : Assignment) (row : DeploymentRow) :
    row.Becomes id a.status a.error.getD (if row.id == id then a.apply now row else row) := by
  split
  · rename_i hid
    exact ⟨rfl, rfl, rfl, fun _ => ⟨rfl, rfl⟩, fun hne => absurd (eq_of_beq hid) hne⟩
  · rename_i hid
    exact ⟨rfl, rfl, rfl, fun h => absurd (beq_iff_eq.mpr h) hid, fun _ => rfl⟩

/-- An update that succeeds changes the row of its deployment and nothing else. -/
lemma Update.updates {now : String} {id : Int} {u : Update} {s t : Store} {d : Deployment}
    (h : u.run now id s = (.ok d, t)) :
    Updates id u.assignment.status u.assignment.error.getD d s t := by
  obtain ⟨hadmits, rfl, row, hrow, hread⟩ := Update.run_eq_ok_iff.mp h
  obtain ⟨created, updated, _, _, rfl⟩ := read_apply_iff.mp hread
  refine ⟨?_, ⟨row, hrow, row?_id hrow, rfl, rfl, rfl⟩, rfl, rfl, ?_⟩
  · unfold row? at hrow
    cases hrows : s.deployments with
    | none =>
      rw [hrows] at hrow
      cases hrow
    | some rows =>
      refine ⟨rows, rows.map fun row => if row.id == id then u.assignment.apply now row else row,
        rfl, ?_, ?_⟩
      · unfold assign
        rw [hrows]
        rfl
      · exact List.forall₂_map_right_iff.mpr
          (List.forall₂_same.mpr fun row _ => becomes_apply now id u.assignment row)
  · rw [← hread]
    exact getDeployment_of_row? hadmits.fits (row?_assign_self hrow now u.assignment)

/-! ### Updates of different deployments -/

/-- A value that can be read as a time stamp. -/
def IsStamp (cell : Cell) : Prop :=
  ∃ stamp, readStamp cell = .ok stamp

/-- The tables without the moments of their last updates. -/
def unstamped (s : Store) : Store :=
  { s with deployments := s.deployments.map (List.map fun row => { row with updated := "" }) }

/-- The storage goes on admitting updates of other deployments. -/
lemma admits_assign_iff {s : Store} {now : String} {i j : Int} {a : Assignment} {status : Status}
    (hne : j ≠ i) : (s.assign now i a).Admits j status ↔ s.Admits j status := by
  constructor
  · rintro ⟨hfits, hpresent, haccepted⟩
    exact ⟨hfits, row?_assign_of_ne s now a hne ▸ hpresent, haccepted⟩
  · rintro ⟨hfits, hpresent, haccepted⟩
    exact ⟨hfits, (row?_assign_of_ne s now a hne).symm ▸ hpresent, haccepted⟩

/-- Without the moments of updates, it does not matter which of two rows was assigned to first. -/
lemma unstamped_assign_assign (s : Store) {i j : Int} (hne : i ≠ j) (m n m' n' : String)
    (a b : Assignment) :
    ((s.assign m' j b).assign n' i a).unstamped = ((s.assign m i a).assign n j b).unstamped := by
  unfold unstamped assign
  cases s.deployments with
  | none => rfl
  | some rows =>
    simp only [Option.map_some, List.map_map]
    congr 2
    refine List.map_congr_left fun row _ => ?_
    by_cases hi : row.id = i
    · have hj : row.id ≠ j := fun hj => hne (hi.symm.trans hj)
      simp [Assignment.apply, hi, hne]
    · by_cases hj : row.id = j
      · simp [Assignment.apply, hj, hne.symm]
      · simp [hi, hj]

/-- What is read back at another moment differs only in the moment. -/
lemma exists_read_apply {now now' : String} {a : Assignment} {row : DeploymentRow} {d : Deployment}
    (h : (a.apply now row).read = .ok d) (hnow' : IsStamp now') :
    ∃ d', (a.apply now' row).read = .ok d' ∧ d' = { d with updatedAt := d'.updatedAt } := by
  obtain ⟨created, updated, hcreated, _, rfl⟩ := read_apply_iff.mp h
  obtain ⟨updated', hupdated'⟩ := hnow'
  exact ⟨_, read_apply_iff.mpr ⟨created, updated', hcreated, hupdated', rfl⟩, rfl⟩

/-- Two updates of different deployments that succeed one after the other succeed in the other order
too, at whatever moments, and return the same records. -/
lemma Update.run_comm {i j : Int} (hne : i ≠ j) {a b : Update} {m n m' n' : String}
    {s t u : Store} {d e : Deployment} (hfirst : a.run m i s = (.ok d, t))
    (hsecond : b.run n j t = (.ok e, u)) (hm' : IsStamp m') (hn' : IsStamp n') :
    ∃ d' e' t' u', b.run m' j s = (.ok e', t') ∧ a.run n' i t' = (.ok d', u') ∧
      u'.unstamped = u.unstamped ∧ d' = { d with updatedAt := d'.updatedAt } ∧
      e' = { e with updatedAt := e'.updatedAt } := by
  obtain ⟨hadmits, rfl, row, hrow, hread⟩ := Update.run_eq_ok_iff.mp hfirst
  obtain ⟨hadmits', rfl, row', hrow', hread'⟩ := Update.run_eq_ok_iff.mp hsecond
  obtain ⟨d', hd', hsame⟩ := exists_read_apply hread hn'
  obtain ⟨e', he', hsame'⟩ := exists_read_apply hread' hm'
  rw [row?_assign_of_ne s m _ hne.symm] at hrow'
  refine ⟨d', e', s.assign m' j b.assignment,
    (s.assign m' j b.assignment).assign n' i a.assignment, ?_, ?_, ?_, hsame, hsame'⟩
  · exact Update.run_eq_ok_iff.mpr ⟨(admits_assign_iff hne.symm).mp hadmits', rfl, row', hrow', he'⟩
  · refine Update.run_eq_ok_iff.mpr ⟨(admits_assign_iff hne).mpr hadmits, rfl, row, ?_, hd'⟩
    rw [row?_assign_of_ne s m' _ hne, hrow]
  · exact unstamped_assign_assign s hne ..

/-! ### Updates of one deployment -/

/-- The tables without what updates write to the rows of a deployment. -/
def blanked (id : Int) (s : Store) : Store :=
  { s with deployments := s.deployments.map (List.map fun row =>
      if row.id == id then { row with status := "", error := none, updated := "" } else row) }

section Blanked

variable {s : Store} {now : String} {i j : Int} {a : Assignment} {status : Status}

/-- A row is found in the blanked tables if it is found in the tables. -/
lemma row?_blanked (s : Store) (i j : Int) : (s.blanked i).row? j = (s.row? j).map fun row =>
    if row.id == i then { row with status := "", error := none, updated := "" } else row := by
  unfold row? blanked
  cases s.deployments with
  | none => rfl
  | some rows =>
    simp only [Option.map_some, Option.getD_some, List.find?_map]
    congr 2
    funext row
    dsimp only [Function.comp]
    split <;> rfl

/-- The storage admits the same updates with blanked rows. -/
lemma admits_blanked_iff : (s.blanked i).Admits j status ↔ s.Admits j status := by
  have hrow : (∃ row, (s.blanked i).row? j = some row) ↔ ∃ row, s.row? j = some row := by
    rw [row?_blanked]
    cases s.row? j with
    | none => simp
    | some row => simp
  constructor
  · rintro ⟨hfits, hpresent, haccepted⟩
    exact ⟨hfits, hrow.mp hpresent, haccepted⟩
  · rintro ⟨hfits, hpresent, haccepted⟩
    exact ⟨hfits, hrow.mpr hpresent, haccepted⟩

/-- Blanking forgets an assignment. -/
lemma blanked_assign_self (s : Store) (now : String) (i : Int) (a : Assignment) :
    (s.assign now i a).blanked i = s.blanked i := by
  unfold blanked assign
  cases s.deployments with
  | none => rfl
  | some rows =>
    simp only [Option.map_some, List.map_map]
    congr 2
    refine List.map_congr_left fun row _ => ?_
    by_cases hi : row.id = i
    · simp [Assignment.apply, hi]
    · simp [hi]

/-- Blanking one row and assigning to another go together. -/
lemma assign_blanked (s : Store) (now : String) (a : Assignment) (hne : j ≠ i) :
    (s.blanked i).assign now j a = (s.assign now j a).blanked i := by
  unfold blanked assign
  cases s.deployments with
  | none => rfl
  | some rows =>
    simp only [Option.map_some, List.map_map]
    congr 2
    refine List.map_congr_left fun row _ => ?_
    by_cases hi : row.id = i
    · have hj : row.id ≠ j := fun hj => hne (hj.symm.trans hi)
      simp [hi, hne.symm]
    · by_cases hj : row.id = j
      · simp [Assignment.apply, hj, hne]
      · simp [hi, hj]

/-- An assignment of both status and error text needs no more than the blanked row. -/
lemma assign_blanked_self (s : Store) (now : String) (i : Int) (error : Option String) :
    (s.blanked i).assign now i ⟨status, some error⟩ = s.assign now i ⟨status, some error⟩ := by
  unfold blanked assign
  cases s.deployments with
  | none => rfl
  | some rows =>
    simp only [Option.map_some, List.map_map]
    congr 2
    refine List.map_congr_left fun row _ => ?_
    by_cases hi : row.id = i
    · simp [Assignment.apply, hi]
    · simp [hi]

/-- The rows of other deployments are found as they are. -/
lemma row?_blanked_of_ne (s : Store) (hne : j ≠ i) : (s.blanked i).row? j = s.row? j := by
  rw [row?_blanked]
  cases h : s.row? j with
  | none => rfl
  | some row => simp [row?_id h, hne]

end Blanked

section History

variable {s t : Store} {now : String} {i j : Int} {u : Update} {d : Deployment}

/-- An update leaves the blanked tables of its deployment alone, whether it succeeds or not. -/
lemma Update.blanked_run_self (s : Store) (now : String) (i : Int) (u : Update) :
    (u.run now i s).2.blanked i = s.blanked i := by
  rcases h : u.run now i s with ⟨e | d, t⟩
  · rw [Update.run_error h]
  · obtain ⟨_, rfl, _⟩ := Update.run_eq_ok_iff.mp h
    exact blanked_assign_self s now i u.assignment

/-- An update of another deployment succeeds with blanked rows as it does without. -/
lemma Update.run_blanked_eq_ok_iff (hne : j ≠ i) :
    (∃ t, u.run now j (s.blanked i) = (.ok d, t)) ↔ ∃ t, u.run now j s = (.ok d, t) := by
  constructor
  · rintro ⟨_, h⟩
    obtain ⟨hadmits, _, row, hrow, hread⟩ := Update.run_eq_ok_iff.mp h
    rw [row?_blanked_of_ne s hne] at hrow
    exact ⟨_, Update.run_eq_ok_iff.mpr ⟨admits_blanked_iff.mp hadmits, rfl, row, hrow, hread⟩⟩
  · rintro ⟨_, h⟩
    obtain ⟨hadmits, _, row, hrow, hread⟩ := Update.run_eq_ok_iff.mp h
    rw [← row?_blanked_of_ne s hne] at hrow
    exact ⟨_, Update.run_eq_ok_iff.mpr ⟨admits_blanked_iff.mpr hadmits, rfl, row, hrow, hread⟩⟩

/-- An update of another deployment does the same to the blanked tables. -/
lemma Update.run_blanked (s : Store) (now : String) (u : Update) (hne : j ≠ i) :
    (u.run now j (s.blanked i)).2 = (u.run now j s).2.blanked i := by
  rcases h : u.run now j s with ⟨e | d, t⟩
  · rcases hblanked : u.run now j (s.blanked i) with ⟨e' | d', t'⟩
    · rw [Update.run_error h, Update.run_error hblanked]
    · obtain ⟨_, hok⟩ := (Update.run_blanked_eq_ok_iff hne).mp ⟨t', hblanked⟩
      rw [h] at hok
      cases hok
  · obtain ⟨t', hblanked⟩ := (Update.run_blanked_eq_ok_iff hne).mpr ⟨t, h⟩
    obtain ⟨_, rfl, _⟩ := Update.run_eq_ok_iff.mp h
    obtain ⟨_, ht', _⟩ := Update.run_eq_ok_iff.mp hblanked
    rw [hblanked, ht']
    exact assign_blanked s now u.assignment hne

/-- An update of both status and error text succeeds with the blanked row as it does with the row,
and leaves the same tables. -/
lemma Update.setting_blanked_eq_ok_iff {status : Status} {error : Option String} :
    (Update.setting status error).run now i (s.blanked i) = (.ok d, t) ↔
      (Update.setting status error).run now i s = (.ok d, t) := by
  have hread : (∃ row, (s.blanked i).row? i = some row ∧
        (Assignment.apply ⟨status, some error⟩ now row).read = .ok d) ↔
      ∃ row, s.row? i = some row ∧
        (Assignment.apply ⟨status, some error⟩ now row).read = .ok d := by
    rw [row?_blanked]
    cases h : s.row? i with
    | none => simp
    | some row => simp [row?_id h, Assignment.apply]
  rw [Update.run_eq_ok_iff, Update.run_eq_ok_iff, admits_blanked_iff]
  dsimp only [Update.assignment]
  rw [assign_blanked_self, hread]

/-- An update of a deployment at a moment. -/
structure Edit where
  now : String
  id : Int
  update : Update

/-- The tables after some edits, of which some may have failed. -/
def edited (edits : List Edit) (s : Store) : Store :=
  edits.foldl (fun s e => (e.update.run e.now e.id s).2) s

/-- With the row of a deployment blanked, the edits of this deployment do not show. -/
lemma blanked_edited (edits : List Edit) (h : s.blanked i = t.blanked i) :
    (edited edits s).blanked i = (edited (edits.filter (·.id ≠ i)) t).blanked i := by
  induction edits generalizing s t with
  | nil => exact h
  | cons e edits ih =>
    by_cases hid : e.id = i
    · rw [List.filter_cons_of_neg (by simpa using hid)]
      refine ih (Eq.trans ?_ h)
      rw [← hid]
      exact Update.blanked_run_self s e.now e.id e.update
    · rw [List.filter_cons_of_pos (by simpa using hid)]
      refine ih ?_
      rw [← Update.run_blanked s e.now e.update hid, ← Update.run_blanked t e.now e.update hid, h]

end History

/-! ### The theorem -/

/-- What updates do, whatever the tables hold.  An update that succeeds changes the row of its
deployment in status and error text, or in the status only, and nothing else but the moment of its
last update, and it returns what is read next.  Two updates of different deployments that succeed
commute, and after an update of both status and error text no earlier edit of the deployment
shows. -/
theorem updates_framed (s : Store) :
    (∀ {now id status error d t}, s.setStatusAndError now id status error = (.ok d, t) →
      Updates id status (fun _ => error) d s t) ∧
    (∀ {now id status d t}, s.updateStatus now id status = (.ok d, t) →
      Updates id status (fun old => old) d s t) ∧
    (∀ {i j m n} {a b : Update} {d e t u}, i ≠ j → a.run m i s = (.ok d, t) →
      b.run n j t = (.ok e, u) → ∀ {m' n' : String}, IsStamp m' → IsStamp n' →
      ∃ d' e' t' u', b.run m' j s = (.ok e', t') ∧ a.run n' i t' = (.ok d', u') ∧
        u'.unstamped = u.unstamped ∧ d' = { d with updatedAt := d'.updatedAt } ∧
        e' = { e with updatedAt := e'.updatedAt }) ∧
    (∀ {edits : List Edit} {now id status error d t},
      (edited edits s).setStatusAndError now id status error = (.ok d, t) →
      (edited (edits.filter (·.id ≠ id)) s).setStatusAndError now id status error = (.ok d, t)) := by
  refine ⟨fun {now id status error d t} h => ?_, fun {now id status d t} h => ?_, ?_, ?_⟩
  · exact Update.updates (u := .setting status error) h
  · exact Update.updates (u := .keeping status) h
  · intro i j m n a b d e t u hne hfirst hsecond m' n' hm' hn'
    exact Update.run_comm hne hfirst hsecond hm' hn'
  · intro edits now id status error d t h
    have hblanked := Update.setting_blanked_eq_ok_iff.mpr h
    rw [blanked_edited edits rfl] at hblanked
    exact Update.setting_blanked_eq_ok_iff.mp hblanked

/-- Two running deployments, the second with an error text that an earlier job has left. -/
def twoRunning : Store where
  instances := some [⟨1, "demo", "2020-01-02 03:04:05"⟩, ⟨2, "demo-2", "2020-01-02 03:04:05"⟩]
  deployments := some [⟨1, 1, "running", none, "2020-01-02 03:04:05", "2020-01-02 03:04:05"⟩,
    ⟨2, 2, "running", some "earlier", "2020-01-02 03:04:05", "2020-01-02 03:04:05"⟩]

/-- The first is recorded as failed, over an earlier record, and the second as stopping: they commute,
the second keeps its error text, and the earlier record of the first does not show. -/
theorem twoRunning_framed :
    let failed : Deployment :=
      ⟨1, 1, .failed, some "gone", ⟨2020, 1, 2, 3, 4, 5, 0, none⟩, ⟨2020, 1, 2, 3, 4, 6, 0, none⟩⟩
    let stopping : Deployment :=
      ⟨2, 2, .stopping, some "earlier", ⟨2020, 1, 2, 3, 4, 5, 0, none⟩, ⟨2020, 1, 2, 3, 4, 6, 0, none⟩⟩
    let s := twoRunning.assign "2020-01-02 03:04:06" 1 ⟨.failed, some (some "gone")⟩
    let t := twoRunning.assign "2020-01-02 03:04:06" 2 ⟨.stopping, none⟩
    Updates 1 .failed (fun _ => some "gone") failed twoRunning s ∧
    Updates 2 .stopping (fun old => old) stopping twoRunning t ∧
    (∃ d' e' t' u', updateStatus "2020-01-02 03:04:06" 2 .stopping twoRunning = (.ok e', t') ∧
      setStatusAndError "2020-01-02 03:04:07" 1 .failed (some "gone") t' = (.ok d', u') ∧
      u'.unstamped = (s.assign "2020-01-02 03:04:07" 2 ⟨.stopping, none⟩).unstamped ∧
      d' = { failed with updatedAt := d'.updatedAt } ∧
      e' = { stopping with updatedAt := e'.updatedAt }) ∧
    setStatusAndError "2020-01-02 03:04:06" 1 .failed (some "gone") twoRunning =
      (.ok failed, s) := by
  intro failed stopping s t
  obtain ⟨hset, hkept, hcommute, hhidden⟩ := updates_framed twoRunning
  have hfirst : twoRunning.setStatusAndError "2020-01-02 03:04:06" 1 .failed (some "gone") =
      (.ok failed, s) := rfl
  have hsecond : s.updateStatus "2020-01-02 03:04:07" 2 .stopping =
      (.ok { stopping with updatedAt := ⟨2020, 1, 2, 3, 4, 7, 0, none⟩ },
        s.assign "2020-01-02 03:04:07" 2 ⟨.stopping, none⟩) := rfl
  have hstopping : twoRunning.updateStatus "2020-01-02 03:04:06" 2 .stopping = (.ok stopping, t) :=
    rfl
  have hearlier : (edited [⟨"2020-01-02 03:04:05", 1, .setting .stopping none⟩]
      twoRunning).setStatusAndError "2020-01-02 03:04:06" 1 .failed (some "gone") =
        (.ok failed, s) := rfl
  refine ⟨hset hfirst, hkept hstopping, ?_, hhidden hearlier⟩
  exact hcommute (a := .setting .failed (some "gone")) (b := .keeping .stopping) (by decide)
    hfirst hsecond ⟨_, rfl⟩ ⟨_, rfl⟩

end Teardown.Store
