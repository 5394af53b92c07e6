import Teardown.Proofs.Json.Image

/-!
# How long integers may be

A dialect may bound the length of numbers.  Floats are written within every bound, so that only the
integers of a value can be too long: `fits_iff_short`.

The writer knows no bound.  What it writes of an integer that is too long is not read:
`readChars_compact_iff` says that the compact text of a value is read exactly if its integers are
short enough.  For a text that is read within the bound is read without it as well
(`readsLoosely`), and then as the value that was written; but what is read within the bound fits it.
-/

namespace Teardown.Json

/-- The dialect without a bound on the length of numbers. -/
def Dialect.unbounded (d : Dialect) : Dialect :=
  { d with wholeLength := fun _ => none, wholeLength_decimal := rfl }

/-! ### Short integers -/

mutual

/-- A value whose integers are all written with at most this many characters. -/
def Short (limit : Nat) : Json → Prop
  | .int n => (toString n).length ≤ limit
  | .arr vs => ShortItems limit vs
  | .obj members => ShortMembers limit members
  | _ => True

/-- The integers of all values of a list are short. -/
def ShortItems (limit : Nat) : List Json → Prop
  | [] => True
  | v :: vs => Short limit v ∧ ShortItems limit vs

/-- The integers of all members of an object are short. -/
def ShortMembers (limit : Nat) : Members → Prop
  | [] => True
  | (_, v) :: rest => Short limit v ∧ ShortMembers limit rest

end

section Bounded

variable {d : Dialect} {limit : Nat}

/-- The integers of an object are short if those of its members are. -/
lemma shortMembers_iff {members : Members} :
    ShortMembers limit members ↔ ∀ member ∈ members, Short limit member.2 := by
  induction members with
  | nil => simp [ShortMembers]
  | cons member rest ih =>
    obtain ⟨k, v⟩ := member
    simp [ShortMembers, ih]

/-- A bound on characters allows an integer that has at most as many. -/
lemma allows_iff_short (hlimit : d.wholeLength false = some limit) (hsign : d.countsSign = true)
    (n : Int) : d.allows (n < 0) false (Nat.toDigits 10 n.natAbs).length = true ↔
      (toString n).length ≤ limit := by
  rw [← String.length_toList, ← Reader.int_eq_toString, Writer.int, List.length_append, Dialect.allows, hlimit,
    hsign]
  by_cases hneg : n < 0
  · simp [hneg, Nat.add_comm]
  · simp [hneg]

mutual

/-- A value fits if its lists, its objects and its keys do, and its integers are short. -/
theorem fits_iff_short (hlimit : d.wholeLength false = some limit) (hsign : d.countsSign = true)
    (depth : Nat) (v : Json) : Fits d depth v ↔ Fits d.unbounded depth v ∧ Short limit v := by
  cases v with
  | int n =>
    have hloose : Fits d.unbounded depth (.int n) := rfl
    rw [and_iff_right hloose]
    exact allows_iff_short hlimit hsign n
  | arr vs =>
    have hitems := fitsItems_iff_short hlimit hsign (depth - 1) vs
    exact (and_congr_right' hitems).trans and_assoc.symm
  | obj members =>
    have hmembers := fitsMembers_iff_short hlimit hsign (depth - 1) members
    rw [Fits, hmembers, Fits, Short]
    tauto
  | null => exact iff_of_true trivial ⟨trivial, trivial⟩
  | bool b => exact iff_of_true trivial ⟨trivial, trivial⟩
  | float x => exact iff_of_true trivial ⟨trivial, trivial⟩
  | str s => exact iff_of_true trivial ⟨trivial, trivial⟩

theorem fitsItems_iff_short (hlimit : d.wholeLength false = some limit)
    (hsign : d.countsSign = true) (depth : Nat) (vs : List Json) :
    FitsItems d depth vs ↔ FitsItems d.unbounded depth vs ∧ ShortItems limit vs := by
  cases vs with
  | nil => exact iff_of_true trivial ⟨trivial, trivial⟩
  | cons v vs =>
    rw [FitsItems, FitsItems, ShortItems, fits_iff_short hlimit hsign depth v,
      fitsItems_iff_short hlimit hsign depth vs]
    tauto

theorem fitsMembers_iff_short (hlimit : d.wholeLength false = some limit)
    (hsign : d.countsSign = true) (depth : Nat) (members : Members) :
    FitsMembers d depth members ↔
      FitsMembers d.unbounded depth members ∧ ShortMembers limit members := by
  match members with
  | [] => exact iff_of_true trivial ⟨trivial, trivial⟩
  | (key, v) :: rest =>
    rw [FitsMembers, FitsMembers, ShortMembers, fits_iff_short hlimit hsign depth v,
      fitsMembers_iff_short hlimit hsign depth rest]
    tauto

end

end Bounded

/-! ### Values that are read back -/

mutual

/-- Reading back changes no list, no object and no integer, so that it keeps a value within the
bounds of a dialect, and brings none back into them. -/
theorem fits_recorded_iff (d : Dialect) (depth : Nat) (v : Json) :
    Fits d depth (recorded v) ↔ Fits d depth v := by
  cases v with
  | null => exact Iff.rfl
  | bool b => exact Iff.rfl
  | int n => exact Iff.rfl
  | float x =>
    unfold recorded
    split
    · exact Iff.rfl
    · exact Iff.rfl
    · exact Iff.rfl
  | str s => exact Iff.rfl
  | arr vs =>
    rw [recorded, Fits, Fits, fitsItems_recordedItems_iff d (depth - 1) vs]
    cases vs with
    | nil => exact Iff.rfl
    | cons v vs => simp [recordedItems]
  | obj members =>
    rw [recorded, Fits, Fits, fitsMembers_recordedMembers_iff d (depth - 1) members,
      keys_recordedMembers]
    cases members with
    | nil => exact Iff.rfl
    | cons member members => simp [recordedMembers]

theorem fitsItems_recordedItems_iff (d : Dialect) (depth : Nat) (vs : List Json) :
    FitsItems d depth (recordedItems vs) ↔ FitsItems d depth vs := by
  cases vs with
  | nil => exact Iff.rfl
  | cons v vs =>
    rw [recordedItems, FitsItems, FitsItems, fits_recorded_iff d depth v,
      fitsItems_recordedItems_iff d depth vs]

theorem fitsMembers_recordedMembers_iff (d : Dialect) (depth : Nat) (members : Members) :
    FitsMembers d depth (recordedMembers members) ↔ FitsMembers d depth members := by
  match members with
  | [] => exact Iff.rfl
  | (key, v) :: rest =>
    rw [recordedMembers, FitsMembers, FitsMembers, fits_recorded_iff d depth v,
      fitsMembers_recordedMembers_iff d depth rest]

end

/-! ### Reading without a bound -/

namespace Reader

variable {d : Dialect}

/-- A number that is read within a bound is read without it as well. -/
lemma magnitude_unbounded {negative : Bool} {cs : List Char} {read : Json × List Char}
    (h : magnitude d negative cs = some read) : magnitude d.unbounded negative cs = some read := by
  unfold magnitude at h ⊢
  dsimp only at h ⊢
  split at h
  · cases h
  rename_i hwhole
  rw [if_neg hwhole]
  obtain ⟨⟨places, behind⟩, hplaces, h⟩ := Option.bind_eq_some_iff.mp h
  obtain ⟨⟨power, behind'⟩, hpower, h⟩ := Option.bind_eq_some_iff.mp h
  dsimp only at h
  split at h
  · cases h
  refine Option.bind_eq_some_iff.mpr ⟨_, hplaces, Option.bind_eq_some_iff.mpr ⟨_, hpower, ?_⟩⟩
  exact h

lemma number_unbounded {cs : List Char} {read : Json × List Char}
    (h : number d cs = some read) : number d.unbounded cs = some read := by
  revert h
  unfold number
  split
  · exact id
  · exact magnitude_unbounded
  · exact magnitude_unbounded

/-- What this many steps read within a bound on numbers, they read without it as well. -/
structure ReadsLoosely (d : Dialect) (steps : Nat) : Prop where
  value : ∀ {depth cs read}, value d steps depth cs = .ok read →
    value d.unbounded steps depth cs = .ok read
  items : ∀ {depth cs read}, items d steps depth cs = .ok read →
    items d.unbounded steps depth cs = .ok read
  members : ∀ {depth cs read}, members d steps depth cs = .ok read →
    members d.unbounded steps depth cs = .ok read

section Step

variable {steps depth : Nat} {cs : List Char}

/-- A chain of steps succeeds, if each step does that succeeded before. -/
lemma bind_of_loosely {α β : Type} {x y : Except Fault α} {f g : α → Except Fault β} {b : β}
    (hx : ∀ a, x = .ok a → y = .ok a) (hf : ∀ a, f a = .ok b → g a = .ok b)
    (h : x >>= f = .ok b) : y >>= g = .ok b := by
  obtain ⟨a, ha, hb⟩ := Except.exists_of_bind_eq_ok h
  rw [hx a ha]
  exact hf a hb

lemma ReadsLoosely.value_succ (ih : ReadsLoosely d steps) {read : Json × List Char} :
    Reader.value d (steps + 1) depth cs = .ok read →
      Reader.value d.unbounded (steps + 1) depth cs = .ok read := by
  unfold Reader.value
  split
  · exact id
  · split
    · exact id
    · split
      · exact id
      · exact bind_of_loosely (fun _ => ih.items) fun _ => id
  · split
    · exact id
    · split
      · exact id
      · exact bind_of_loosely (fun _ => ih.members) fun _ => id
  · exact id
  · exact id
  · exact id
  · exact id
  · exact id
  · intro h
    rw [number_unbounded (eq_some_of_expect h)]
    rfl

lemma ReadsLoosely.items_succ (ih : ReadsLoosely d steps) {read : List Json × List Char} :
    Reader.items d (steps + 1) depth cs = .ok read →
      Reader.items d.unbounded (steps + 1) depth cs = .ok read := by
  unfold Reader.items
  refine bind_of_loosely (fun _ => ih.value) fun first => ?_
  dsimp only
  split
  · exact bind_of_loosely (fun _ => ih.items) fun _ => id
  · exact id
  · exact id

lemma ReadsLoosely.members_succ (ih : ReadsLoosely d steps) {read : Members × List Char} :
    Reader.members d (steps + 1) depth cs = .ok read →
      Reader.members d.unbounded (steps + 1) depth cs = .ok read := by
  unfold Reader.members
  split
  · refine bind_of_loosely (fun _ => id) fun key => ?_
    dsimp only
    split
    · refine bind_of_loosely (fun _ => ih.value) fun first => ?_
      split
      · exact bind_of_loosely (fun _ => ih.members) fun _ => id
      · exact id
      · exact id
    · exact id
  · exact id

end Step

/-- What is read within a bound on numbers is read without it as well. -/
lemma readsLoosely (d : Dialect) (steps : Nat) : ReadsLoosely d steps := by
  induction steps with
  | zero => exact ⟨nofun, nofun, nofun⟩
  | succ steps ih => exact ⟨ih.value_succ, ih.items_succ, ih.members_succ⟩

end Reader

/-- A text that is read within a bound on numbers is read without it as well. -/
lemma readChars_unbounded {d : Dialect} {cs : List Char} {v : Json} (h : readChars d cs = .ok v) :
    readChars d.unbounded cs = .ok v := by
  obtain ⟨rest, hrest, hread⟩ := exists_of_readChars h
  have hloosely : Reader.value d.unbounded (2 * cs.length + 2) d.unbounded.nesting cs =
      .ok (v, rest) := (Reader.readsLoosely d _).value hread
  unfold readChars
  rw [hloosely]
  exact if_pos hrest

/-- The compact text of a value is read if and only if the value fits, once it would fit without a
bound on numbers. -/
theorem readChars_compact_iff {d : Dialect} {v : Json} (hloose : Fits d.unbounded d.nesting v) :
    (∃ u, readChars d v.compact.toList = .ok u) ↔ Fits d d.nesting v := by
  refine ⟨fun ⟨u, h⟩ => ?_, fun h => ⟨_, readChars_compact h⟩⟩
  have hrecorded : readChars d.unbounded v.compact.toList = .ok (recorded v) :=
    readChars_compact hloose
  rw [readChars_unbounded h, Except.ok.injEq] at hrecorded
  rw [← fits_recorded_iff, ← hrecorded]
  exact fits_of_readChars h

end Teardown.Json
