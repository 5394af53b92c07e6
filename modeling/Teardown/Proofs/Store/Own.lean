import Mathlib.Tactic.Lemma
import Teardown.Proofs.Store.Commit

/-!
# The part of the tables that belongs to one deployment

`own id` keeps the instances, the refusals and the rows of the deployment `id`, and leaves out the
rows of all other deployments.  Every operation that names this deployment does the same on this part
as on the whole (`getDeployment_own`, `setStatusAndError_own`), and an operation that names another
deployment leaves it alone (`own_setStatusAndError`).  Which rows others have is of no consequence,
then, for what is read, for whether a write succeeds, and for the row that it leaves.
-/

namespace Teardown.Store

/-- The tables without the rows of other deployments. -/
def own (id : Int) (s : Store) : Store :=
  { s with deployments := s.deployments.map (List.filter (·.id == id)) }

variable (s : Store) (id : Int)

/-! ### Reading -/

/-- What is found under an id is found among the rows with this id. -/
lemma find?_filter_id (rows : List DeploymentRow) :
    (rows.filter (·.id == id)).find? (·.id == id) = rows.find? (·.id == id) := by
  rw [List.find?_filter]
  congr 1
  funext row
  simp only [and_self, Bool.decide_eq_true]

/-- A look-up of the own row finds the row of the whole table. -/
lemma row?_own : (s.own id).row? id = s.row? id := by
  unfold row? own
  cases s.deployments with
  | none => rfl
  | some rows => exact find?_filter_id id rows

/-- A statement on the own row finds the row of the whole table. -/
lemma selectDeployment_own : (s.own id).selectDeployment id = s.selectDeployment id := by
  unfold selectDeployment own
  cases s.deployments with
  | none => rfl
  | some rows =>
    dsimp only [Option.map_some]
    rw [find?_filter_id]

lemma fetchDeployment_own (unreadable : Error) :
    (s.own id).fetchDeployment unreadable id = s.fetchDeployment unreadable id := by
  unfold fetchDeployment
  rw [selectDeployment_own]

/-- Reading the own deployment needs no other rows. -/
lemma getDeployment_own : (s.own id).getDeployment id = s.getDeployment id :=
  fetchDeployment_own s id _

/-- The instances are not divided among deployments. -/
lemma getInstance_own (i : Int) : (s.own id).getInstance i = s.getInstance i :=
  getInstance_congr rfl i

/-! ### Writing -/

/-- An update changes no id, so it does not matter whether rows are left out before it or after. -/
lemma filter_map_apply (now : String) (a : Assignment) (other : Int) (rows : List DeploymentRow) :
    (rows.map fun row => if row.id == id then a.apply now row else row).filter (·.id == other) =
      (rows.filter (·.id == other)).map fun row => if row.id == id then a.apply now row else row := by
  rw [List.filter_map]
  congr 2
  funext row
  dsimp only [Function.comp]
  split <;> rfl

/-- An update of the own row is an update of the part. -/
lemma updateDeployment_own (now : String) (a : Assignment) :
    (s.own id).updateDeployment now id a =
      ((s.updateDeployment now id a).1, (s.updateDeployment now id a).2.own id) := by
  unfold updateDeployment own
  cases hrows : s.deployments with
  | none => simp [hrows]
  | some rows =>
    dsimp only [Option.map_some]
    rw [List.filter_filter]
    simp only [Bool.and_self]
    split
    · split
      · simp [hrows]
      · split
        · simp [hrows]
        · dsimp only [Option.map_some]
          rw [filter_map_apply]
    · simp [hrows]

/-- An update of another row leaves the part alone. -/
lemma own_updateDeployment (now : String) (a : Assignment) {other : Int} (hne : other ≠ id) :
    (s.updateDeployment now id a).2.own other = s.own other := by
  unfold updateDeployment
  cases hrows : s.deployments with
  | none => rfl
  | some rows =>
    dsimp only
    split
    · split
      · rfl
      · split
        · rfl
        · have hothers : ∀ row ∈ rows.filter (·.id == other),
              (if row.id == id then a.apply now row else row) = row := by
            intro row hrow
            have hid : row.id = other := eq_of_beq (List.mem_filter.mp hrow).2
            rw [if_neg (by simpa [hid] using hne)]
          unfold own
          rw [hrows]
          dsimp only [Option.map_some]
          rw [filter_map_apply, List.map_congr_left hothers, List.map_id']
    · rfl

/-- The steps of an update of the own row are those of the part. -/
lemma updateSteps_own (now : String) (a : Assignment) :
    updateSteps now id a (s.own id) =
      ((updateSteps now id a s).1, (updateSteps now id a s).2.own id) := by
  unfold updateSteps
  rw [updateDeployment_own]
  rcases s.updateDeployment now id a with ⟨fault | matched, t⟩
  · rfl
  · cases matched with
    | zero => rfl
    | succ n => exact congrArg (·, t.own id) (fetchDeployment_own t id _)

/-- A write of the own row is a write of the part. -/
theorem setStatusAndError_own (now : String) (status : Status) (error : Option String) :
    (s.own id).setStatusAndError now id status error =
      ((s.setStatusAndError now id status error).1,
        (s.setStatusAndError now id status error).2.own id) := by
  unfold setStatusAndError transact
  rw [updateSteps_own]
  rcases updateSteps now id ⟨status, some error⟩ s with ⟨e | d, t⟩
  · rfl
  · rfl

/-- A write of another row leaves the part alone. -/
theorem own_setStatusAndError (now : String) (status : Status) (error : Option String) {other : Int}
    (hne : other ≠ id) : (s.setStatusAndError now id status error).2.own other = s.own other := by
  have hsteps : (updateSteps now id ⟨status, some error⟩ s).2.own other = s.own other := by
    have hupdate := own_updateDeployment s id now ⟨status, some error⟩ hne
    unfold updateSteps
    rcases hresult : s.updateDeployment now id ⟨status, some error⟩ with ⟨fault | matched, t⟩
    · rw [hresult] at hupdate
      exact hupdate
    · rw [hresult] at hupdate
      cases matched with
      | zero => exact hupdate
      | succ n => exact hupdate
  unfold setStatusAndError transact
  rcases hresult : updateSteps now id ⟨status, some error⟩ s with ⟨e | d, t⟩
  · rfl
  · rw [hresult] at hsteps
    exact hsteps

end Teardown.Store
