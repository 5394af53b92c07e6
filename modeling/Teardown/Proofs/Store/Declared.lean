import Mathlib.Data.List.TakeWhile
import Teardown.Proofs.Store.Atomic

/-!
# Failures that are declared

Those who use the stored deployments are told of two kinds of failures, `declaredKinds`: a row is
missing, or the storage cannot be read or written.  `Operation.Fails` lists all reasons for which an
operation fails, and some of them are of another kind.  An error text with half of a surrogate pair in
it (`Operation.Halved`) and an id outside 64 bits cannot be bound to a statement, the text being bound
first.  A row may hold a stamp that cannot be read, since its column admits any value; the first such
value decides of which kind the failure is (`Operation.Misdated`, `Cell.fault`).

In tables that are there, an operation fails for each of these reasons if none of those before it
applies (`Operation.fails_of_halved`, `Operation.fails_of_unfit`, `Operation.fails_of_misdated`).  In
all other cases the reasons for which it may fail are declared (`Operation.Fails.declared`).
-/

namespace Teardown

/-! ### Texts without an encoding -/

namespace Text

variable {ps : List Point}

/-- What has an encoding holds characters only. -/
lemma ofPoints_eq_ok_iff : (∃ s, ofPoints ps = .ok s) ↔ ∀ n, .half n ∉ ps := by
  unfold ofPoints
  cases hrest : ps.dropWhile (·.char?.isSome) with
  | nil =>
    refine iff_of_true ⟨_, rfl⟩ fun n hmem => ?_
    have hchar := List.dropWhile_eq_nil_iff.mp hrest _ hmem
    cases hchar
  | cons p rest =>
    -- The first point that is left is no character.
    have hfirst : p.char?.isSome = false := by
      have hhead := List.head?_dropWhile_not (·.char?.isSome) ps
      rw [hrest] at hhead
      simpa using hhead
    cases p with
    | char c => cases hfirst
    | half n =>
      have hmem : .half n ∈ ps :=
        (List.dropWhile_suffix _).subset (hrest ▸ List.mem_cons_self)
      exact iff_of_false (fun ⟨_, h⟩ => by cases h) fun h => h n hmem

/-- The points of a text make up the text. -/
lemma ofPoints_points (s : String) : ofPoints (points s) = .ok s := by
  have hchars : ∀ p ∈ points s, p.char?.isSome = true := by
    intro p hp
    obtain ⟨c, _, rfl⟩ := List.mem_map.mp hp
    rfl
  have hsame : (points s).filterMap Point.char? = s.toList := by
    have hsome : Point.char? ∘ Point.char = some := rfl
    rw [points, List.filterMap_map, hsome, List.filterMap_some]
  unfold ofPoints
  rw [List.dropWhile_eq_nil_iff.mpr hchars, List.takeWhile_eq_self_iff.mpr hchars]
  dsimp only
  rw [hsame, String.ofList_toList]

end Text

namespace Store

/-- The kinds of failures that operations are declared to have. -/
def declaredKinds : List String :=
  ["DeploymentNotFoundError", "DeploymentPersistenceError"]

/-- The tables are there.  Of their rows nothing is asked. -/
structure Migrated (s : Store) : Prop where
  deployments : ∃ rows, s.deployments = some rows
  instances : ∃ rows, s.instances = some rows

/-- The first of two stamps that cannot be read. -/
inductive Undated (created updated : Cell) : Cell → Prop
  | created (unread : ¬ IsStamp created) : Undated created updated created
  | updated (read : IsStamp created) (unread : ¬ IsStamp updated) : Undated created updated updated

namespace Operation

/-- The id that an operation is called with. -/
def id : Operation → Int
  | .getDeployment id => id
  | .getInstance id => id
  | .updateStatus id _ => id
  | .setStatusAndError id _ _ => id

/-- An operation that writes is called with a status. -/
def NamesStatus : Operation → Prop
  | .getDeployment _ => True
  | .getInstance _ => True
  | .updateStatus _ v => ∃ status, statusOf v = .ok status
  | .setStatusAndError _ v _ => ∃ status, statusOf v = .ok status

/-- An operation is to write an error text with half of a surrogate pair in it. -/
def Halved : Operation → Prop
  | .setStatusAndError _ _ (some ps) => ∃ n, .half n ∈ ps
  | _ => False

/-- A deployment whose row is written, and the stamp of its creation, which cannot be read. -/
def Miswritten (s : Store) (id : Int) (v : Json) (cell : Cell) : Prop :=
  ∃ row status, Selected s.deployments DeploymentRow.id id row ∧ statusOf v = .ok status ∧
    s.refused.contains status.text = false ∧ row.created = cell ∧ ¬ IsStamp cell

/-- An operation comes to a row of which it cannot read a stamp, and this is the first one. -/
def Misdated (s : Store) : Operation → Cell → Prop
  | .getDeployment id, cell => ∃ row, Selected s.deployments DeploymentRow.id id row ∧
      Undated row.created row.updated cell
  | .getInstance id, cell => ∃ row, Selected s.instances InstanceRow.id id row ∧
      row.created = cell ∧ ¬ IsStamp cell
  | .updateStatus id v, cell => Miswritten s id v cell
  | .setStatusAndError id v _, cell => Miswritten s id v cell

end Operation

/-! ### Stamps -/

section Stamps

variable {created updated cell : Cell} {e : Error}

/-- A value that is no stamp is not read for what it is. -/
lemma exists_of_not_isStamp (h : ¬ IsStamp cell) :
    ∃ e, readStamp cell = .error e ∧ e.kind = cell.fault := by
  cases hread : readStamp cell with
  | ok stamp => exact absurd ⟨stamp, hread⟩ h
  | error e => exact ⟨e, rfl, kind_of_readStamp hread⟩

/-- What is read is a stamp. -/
lemma IsStamp.not_error (h : IsStamp cell) : readStamp cell ≠ .error e := by
  obtain ⟨stamp, hread⟩ := h
  rw [hread]
  exact nofun

/-- A row is not read for the first of its stamps that cannot be read. -/
lemma Undated.unstamped (h : Undated created updated cell) :
    ∃ e, Unstamped created updated e ∧ e.kind = cell.fault := by
  cases h with
  | created unread =>
    obtain ⟨e, hread, hkind⟩ := exists_of_not_isStamp unread
    exact ⟨e, .created hread, hkind⟩
  | updated read unread =>
    obtain ⟨stamp, hcreated⟩ := read
    obtain ⟨e, hread, hkind⟩ := exists_of_not_isStamp unread
    exact ⟨e, .updated hcreated hread, hkind⟩

/-- A row whose stamps are not read has a first stamp that cannot be read. -/
lemma Unstamped.undated (h : Unstamped created updated e) : ∃ cell, Undated created updated cell := by
  cases h with
  | created hread => exact ⟨_, .created fun hstamp => hstamp.not_error hread⟩
  | updated hcreated hread =>
    exact ⟨_, .updated ⟨_, hcreated⟩ fun hstamp => hstamp.not_error hread⟩

end Stamps

/-! ### Rows -/

section Rows

variable {α : Type} {table : Option (List α)} {idOf : α → Int} {id : Int}
variable {unreadable missing e : Error}

/-- If the id can be bound, a row is not found for declared reasons. -/
lemma Unselected.declared (h : Unselected table idOf id unreadable missing e)
    (hfits : idFits id = true) (hunreadable : unreadable.kind ∈ declaredKinds)
    (hmissing : missing.kind ∈ declaredKinds) : e.kind ∈ declaredKinds := by
  cases h with
  | gone _ => exact hunreadable
  | tooLarge _ hlarge =>
    rw [hfits] at hlarge
    cases hlarge
  | absent _ _ _ => exact hmissing

end Rows

/-! ### Operations -/

section Operations

variable {now : String} {s : Store} {op : Operation} {id : Int} {v : Json} {e : Error} {cell : Cell}

/-- An error text is bound unless it has half of a surrogate pair in it. -/
lemma exists_of_not_halved {error : Option (List Text.Point)}
    (h : ¬ (Operation.setStatusAndError id v error).Halved) : ∃ text, bindError error = .ok text := by
  cases error with
  | none => exact ⟨none, rfl⟩
  | some ps =>
    obtain ⟨text, hencoded⟩ := Text.ofPoints_eq_ok_iff.mpr fun n hmem => h ⟨n, hmem⟩
    exact ⟨some text, bindError_of_encoded hencoded⟩

/-- An update whose id can be bound fails for declared reasons unless its row cannot be read
back. -/
lemma Unwritten.declared (h : Unwritten now s id v e) (hnow : IsStamp now)
    (hnamed : ∃ status, statusOf v = .ok status) (hfits : idFits id = true)
    (hdated : ∀ cell, ¬ Operation.Miswritten s id v cell) : e.kind ∈ declaredKinds := by
  cases h with
  | unknown hstatus =>
    obtain ⟨status, hnamed⟩ := hnamed
    rw [hnamed] at hstatus
    cases hstatus
  | unselected _ hrow => exact hrow.declared hfits (.tail _ (.head _)) (.head _)
  | refused _ _ _ => exact .tail _ (.head _)
  | @unread status row _ hstatus hrow haccepted hread =>
    -- The update itself wrote the other stamp, so only that of the creation can be unreadable.
    obtain ⟨_, hundated⟩ := hread.undated
    cases hundated with
    | created unread => exact absurd ⟨row, status, hrow, hstatus, haccepted, rfl, unread⟩ (hdated _)
    | updated _ unread => exact absurd hnow unread

/-- An operation whose error text and id can be bound fails for declared reasons unless it comes to a
row of which it cannot read a stamp. -/
lemma Operation.Fails.declared (h : op.Fails now s e) (hnow : IsStamp now)
    (hnamed : op.NamesStatus) (hwhole : ¬ op.Halved) (hfits : idFits op.id = true)
    (hdated : ∀ cell, ¬ op.Misdated s cell) : e.kind ∈ declaredKinds := by
  cases op with
  | getDeployment id =>
    rcases h with hrow | ⟨row, hrow, hread⟩
    · exact hrow.declared hfits (.tail _ (.head _)) (.head _)
    · cases hread with
      | unstamped hread =>
        obtain ⟨cell, hundated⟩ := hread.undated
        exact absurd ⟨row, hrow, hundated⟩ (hdated cell)
      | unknown _ _ _ => exact .tail _ (.head _)
  | getInstance id =>
    rcases h with hrow | ⟨row, hrow, hread⟩
    · exact hrow.declared hfits (.tail _ (.head _)) (.head _)
    · exact absurd ⟨row, hrow, rfl, fun hcreated => hcreated.not_error hread⟩ (hdated _)
  | updateStatus id v => exact Unwritten.declared h hnow hnamed hfits hdated
  | setStatusAndError id v error =>
    obtain ⟨text, hbound⟩ := exists_of_not_halved hwhole
    exact Unwritten.declared ((unrecorded_iff_of_bound hbound).mp h) hnow hnamed hfits hdated

/-- An operation whose error text cannot be bound fails for this reason. -/
lemma Operation.fails_of_halved (now : String) (hs : s.Migrated) (hnamed : op.NamesStatus)
    (hhalved : op.Halved) : ∃ reason, op.Fails now s (.unencodable reason) := by
  cases op with
  | getDeployment _ | getInstance _ | updateStatus _ _ => cases hhalved
  | setStatusAndError id v error =>
    cases error with
    | none => cases hhalved
    | some ps =>
      obtain ⟨n, hhalf⟩ := hhalved
      obtain ⟨status, hstatus⟩ := hnamed
      obtain ⟨rows, hrows⟩ := hs.deployments
      cases hencoded : Text.ofPoints ps with
      | ok text => exact absurd hhalf (Text.ofPoints_eq_ok_iff.mp ⟨text, hencoded⟩ n)
      | error reason =>
        exact ⟨reason, .unbound (bindError_of_unencodable hencoded) hstatus hrows⟩

/-- An operation whose error text can be bound and whose id cannot fails for this reason. -/
lemma Operation.fails_of_unfit (now : String) (hs : s.Migrated) (hnamed : op.NamesStatus)
    (hwhole : ¬ op.Halved) (hlarge : idFits op.id = false) : op.Fails now s .idTooLarge := by
  obtain ⟨rows, hrows⟩ := hs.deployments
  obtain ⟨instances, hinstances⟩ := hs.instances
  cases op with
  | getDeployment id => exact .inl (.tooLarge hrows hlarge)
  | getInstance id => exact .inl (.tooLarge hinstances hlarge)
  | updateStatus id v =>
    obtain ⟨status, hstatus⟩ := hnamed
    exact .unselected hstatus (.tooLarge hrows hlarge)
  | setStatusAndError id v error =>
    obtain ⟨status, hstatus⟩ := hnamed
    obtain ⟨text, hbound⟩ := exists_of_not_halved hwhole
    exact .bound hbound (.unselected hstatus (.tooLarge hrows hlarge))

/-- An operation that comes to a row of which it cannot read a stamp fails for this stamp, if its error
text can be bound. -/
lemma Operation.fails_of_misdated (now : String) (hwhole : ¬ op.Halved) (h : op.Misdated s cell) :
    ∃ e, op.Fails now s e ∧ e.kind = cell.fault := by
  have hwritten : ∀ {id v}, Miswritten s id v cell →
      ∃ e, Unwritten now s id v e ∧ e.kind = cell.fault := by
    rintro id v ⟨row, status, hrow, hstatus, haccepted, rfl, unread⟩
    obtain ⟨e, hread, hkind⟩ := exists_of_not_isStamp unread
    exact ⟨e, .unread hstatus hrow haccepted (.created hread), hkind⟩
  cases op with
  | getDeployment id =>
    obtain ⟨row, hrow, hundated⟩ := h
    obtain ⟨e, hread, hkind⟩ := hundated.unstamped
    exact ⟨e, .inr ⟨row, hrow, .unstamped hread⟩, hkind⟩
  | getInstance id =>
    obtain ⟨row, hrow, rfl, unread⟩ := h
    obtain ⟨e, hread, hkind⟩ := exists_of_not_isStamp unread
    exact ⟨e, .inr ⟨row, hrow, hread⟩, hkind⟩
  | updateStatus id v => exact hwritten h
  | setStatusAndError id v error =>
    obtain ⟨text, hbound⟩ := exists_of_not_halved hwhole
    obtain ⟨e, hfails, hkind⟩ := hwritten h
    exact ⟨e, .bound hbound hfails, hkind⟩

end Operations

end Store

end Teardown
