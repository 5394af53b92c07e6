import Teardown.Proofs.Except
import Teardown.Proofs.Json.RoundTrip

/-!
# What the reader returns

Every value that is read fits the dialect it was read in (`fits_of_readChars`): it is nested no deeper
than the reader goes, an integer has no more digits than were written, and objects have no key
twice, since a member under a key that is present takes the place of the one before.  So a value that
was read can be written and read again, whatever text it came from.

Writing loses only the floats without digits: a value is read back as it is if and only if all its
floats are finite (`recorded_eq_self_iff`).
-/

namespace Teardown.Json

/-! ### Finite values -/

mutual

/-- A value whose floats are all finite. -/
def Finite : Json → Prop
  | .float x => x.isFinite = true
  | .arr vs => FiniteItems vs
  | .obj members => FiniteMembers members
  | _ => True

/-- All values of a list are finite. -/
def FiniteItems : List Json → Prop
  | [] => True
  | v :: vs => Finite v ∧ FiniteItems vs

/-- The values of all members of an object are finite. -/
def FiniteMembers : Members → Prop
  | [] => True
  | (_, v) :: rest => Finite v ∧ FiniteMembers rest

end

mutual

/-- Looks at all floats of a value. -/
def decideFinite : (v : Json) → Decidable (Finite v)
  | .float x => inferInstanceAs (Decidable (x.isFinite = true))
  | .arr vs => decideFiniteItems vs
  | .obj members => decideFiniteMembers members
  | .null => .isTrue trivial
  | .bool _ => .isTrue trivial
  | .int _ => .isTrue trivial
  | .str _ => .isTrue trivial

/-- Looks at all floats of the values of a list. -/
def decideFiniteItems : (vs : List Json) → Decidable (FiniteItems vs)
  | [] => .isTrue trivial
  | v :: vs => @instDecidableAnd _ _ (decideFinite v) (decideFiniteItems vs)

/-- Looks at all floats of the members of an object. -/
def decideFiniteMembers : (members : Members) → Decidable (FiniteMembers members)
  | [] => .isTrue trivial
  | (_, v) :: rest => @instDecidableAnd _ _ (decideFinite v) (decideFiniteMembers rest)

end

instance : DecidablePred Finite := decideFinite

instance : DecidablePred FiniteMembers := decideFiniteMembers

/-- A float is read back if it is finite, and only then. -/
lemma recorded_float_iff (x : Float) : recorded (.float x) = .float x ↔ x.isFinite = true := by
  have hreading : Decimal.Reading.ofFloat x =
      if Decimal.infinityBits < x.toBits.toNat % 2 ^ 63 then .notANumber
      else if x.toBits.toNat % 2 ^ 63 = Decimal.infinityBits then
        .infinite (2 ^ 63 ≤ x.toBits.toNat)
      else if x.toBits.toNat % 2 ^ 63 = 0 then .zero (2 ^ 63 ≤ x.toBits.toNat)
      else .finite (2 ^ 63 ≤ x.toBits.toNat)
        (Decimal.Binary.ofBits (x.toBits.toNat % 2 ^ 63)).shortest := rfl
  rw [Decimal.isFinite_iff]
  generalize x.toBits.toNat % 2 ^ 63 = magnitude at hreading ⊢
  unfold recorded
  rcases lt_trichotomy magnitude Decimal.infinityBits with hlt | heq | hgt
  · rw [if_neg (not_lt.mpr hlt.le), if_neg hlt.ne] at hreading
    by_cases hzero : magnitude = 0
    · rw [hreading, if_pos hzero]
      exact iff_of_true rfl hlt
    · rw [hreading, if_neg hzero]
      exact iff_of_true rfl hlt
  · rw [if_neg (not_lt.mpr heq.le), if_pos heq] at hreading
    rw [hreading]
    exact iff_of_false Json.noConfusion (not_lt.mpr heq.ge)
  · rw [if_pos hgt] at hreading
    rw [hreading]
    exact iff_of_false Json.noConfusion (not_lt.mpr hgt.le)

mutual

/-- A value is read back as it is if all its floats are finite, and only then. -/
theorem recorded_eq_self_iff (v : Json) : recorded v = v ↔ Finite v := by
  cases v with
  | null => exact iff_of_true rfl trivial
  | bool b => exact iff_of_true rfl trivial
  | int n => exact iff_of_true rfl trivial
  | float x => exact recorded_float_iff x
  | str s => exact iff_of_true rfl trivial
  | arr vs =>
    rw [recorded, arr.injEq]
    exact recordedItems_eq_self_iff vs
  | obj members =>
    rw [recorded, obj.injEq]
    exact recordedMembers_eq_self_iff members

/-- The values of a list are read back if they are finite. -/
theorem recordedItems_eq_self_iff (vs : List Json) : recordedItems vs = vs ↔ FiniteItems vs := by
  cases vs with
  | nil => exact iff_of_true rfl trivial
  | cons v vs =>
    rw [recordedItems, List.cons.injEq, recorded_eq_self_iff v, recordedItems_eq_self_iff vs]
    rfl

/-- The members of an object are read back if their values are finite. -/
theorem recordedMembers_eq_self_iff (members : Members) :
    recordedMembers members = members ↔ FiniteMembers members := by
  match members with
  | [] => exact iff_of_true rfl trivial
  | (key, v) :: rest =>
    rw [recordedMembers, List.cons.injEq, Prod.mk.injEq, recorded_eq_self_iff v,
      recordedMembers_eq_self_iff rest]
    simp [FiniteMembers]

end

/-! ### Members that are set one by one -/

/-- A member of the result was there, or it is the one that was set. -/
lemma mem_setMember {key : String} {v : Json} {members : Members} {member : String × Json}
    (h : member ∈ setMember key v members) : member = (key, v) ∨ member ∈ members := by
  induction members with
  | nil => exact .inl (List.mem_singleton.mp h)
  | cons first rest ih =>
    obtain ⟨k, w⟩ := first
    unfold setMember at h
    split at h
    · rename_i hkey
      rcases List.mem_cons.mp h with rfl | hrest
      · exact .inl (by rw [hkey])
      · exact .inr (List.mem_cons_of_mem _ hrest)
    · rcases List.mem_cons.mp h with rfl | hrest
      · exact .inr List.mem_cons_self
      · exact (ih hrest).imp_right (List.mem_cons_of_mem _)

/-- Setting a member puts its key last, unless the key was there. -/
lemma keys_setMember (key : String) (v : Json) (members : Members) :
    (setMember key v members).map Prod.fst =
      if key ∈ members.map Prod.fst then members.map Prod.fst
      else members.map Prod.fst ++ [key] := by
  by_cases hkey : key ∈ members.map Prod.fst
  · rw [if_pos hkey]
    induction members with
    | nil => cases hkey
    | cons first rest ih =>
      obtain ⟨k, w⟩ := first
      unfold setMember
      split
      · rfl
      · rename_i hne
        have hrest : key ∈ rest.map Prod.fst :=
          (List.mem_cons.mp hkey).resolve_left (Ne.symm hne)
        exact congrArg (k :: ·) (ih hrest)
  · rw [if_neg hkey, setMember_of_new v hkey, List.map_append]
    rfl

/-- The member that was set last under a key is found. -/
lemma lookup_setMember (key name : String) (v : Json) (members : Members) :
    (setMember key v members).lookup name =
      if name = key then some v else members.lookup name := by
  have hlookup : ∀ (k : String) (w : Json) (rest : Members),
      ((k, w) :: rest).lookup name = if name = k then some w else rest.lookup name := by
    intro k w rest
    by_cases hname : name = k
    · rw [hname, List.lookup_cons_self, if_pos rfl]
    · rw [List.lookup_cons, beq_eq_false_iff_ne.mpr hname, if_neg hname]
  induction members with
  | nil => exact hlookup key v []
  | cons first rest ih =>
    obtain ⟨k, w⟩ := first
    unfold setMember
    split
    · rename_i hkey
      rw [hlookup, hlookup, hkey]
      split <;> rfl
    · rename_i hkey
      rw [hlookup, hlookup, ih]
      by_cases hname : name = k
      · rw [if_pos hname, if_pos hname, if_neg fun h => hkey (hname.symm.trans h)]
      · rw [if_neg hname, if_neg hname]

/-- No key occurs twice after setting one more member. -/
lemma nodup_setMember {key : String} {v : Json} {members : Members}
    (h : (members.map Prod.fst).Nodup) : ((setMember key v members).map Prod.fst).Nodup := by
  rw [keys_setMember]
  split
  · exact h
  · rename_i hnew
    exact List.nodup_append.mpr ⟨h, List.nodup_singleton key, by
      rintro a ha b hb rfl
      exact hnew (List.mem_singleton.mp hb ▸ ha)⟩

/-- What `ofPairs` returns has distinct keys, and its members are among the pairs. -/
lemma ofPairs_sound (pairs : Members) :
    ((ofPairs pairs).map Prod.fst).Nodup ∧ ∀ member ∈ ofPairs pairs, member ∈ pairs := by
  induction pairs using List.reverseRecOn with
  | nil => exact ⟨List.nodup_nil, fun member h => h⟩
  | append_singleton pairs pair ih =>
    have hfold : ofPairs (pairs ++ [pair]) = setMember pair.1 pair.2 (ofPairs pairs) := by
      unfold ofPairs
      rw [List.foldl_append]
      rfl
    rw [hfold]
    refine ⟨nodup_setMember ih.1, fun member hmember => ?_⟩
    rcases mem_setMember hmember with rfl | hbefore
    · exact List.mem_append_right _ (List.mem_singleton.mpr rfl)
    · exact List.mem_append_left _ (ih.2 member hbefore)

namespace Reader

variable {d : Dialect}

/-! ### Scalars that are read -/

/-- A dialect that allows a number allows it with fewer digits or without its sign. -/
lemma allows_mono {negative negative' decimal : Bool} {digits digits' : Nat}
    (h : d.allows negative decimal digits = true) (hdigits : digits' ≤ digits)
    (hsign : negative' = true → negative = true) : d.allows negative' decimal digits' = true := by
  unfold Dialect.allows at h ⊢
  rw [Option.all_eq_true] at h ⊢
  intro limit hlimit
  have hbound := of_decide_eq_true (h limit hlimit)
  have hcounted : (if negative' && d.countsSign then 1 else 0) ≤
      if negative && d.countsSign then 1 else 0 := by
    cases negative' with
    | false => exact Nat.zero_le _
    | true => rw [hsign rfl]
  exact decide_eq_true (by omega)

/-- An unsigned number that is read is a float or a short integer. -/
lemma fits_of_magnitude {negative : Bool} {cs rest : List Char} {v : Json} (depth : Nat)
    (h : magnitude d negative cs = some (v, rest)) : Fits d depth v := by
  unfold magnitude at h
  dsimp only at h
  split at h
  · cases h
  rename_i hwhole
  obtain ⟨⟨places, behind⟩, -, h⟩ := Option.bind_eq_some_iff.mp h
  obtain ⟨⟨power, behind'⟩, -, h⟩ := Option.bind_eq_some_iff.mp h
  dsimp only at h
  split at h
  · cases h
  rename_i hbound
  split at h
  · cases h
    have hnatAbs : (if negative then -(natOfDigits (cs.takeWhile Char.isDigit) : Int)
        else natOfDigits (cs.takeWhile Char.isDigit)).natAbs =
          natOfDigits (cs.takeWhile Char.isDigit) := by
      split
      · exact (Int.natAbs_neg _).trans (Int.natAbs_natCast _)
      · exact Int.natAbs_natCast _
    have hlength := length_toDigits_natOfDigits (not_or.mp hwhole).1
      fun c hc => List.mem_takeWhile_imp hc
    unfold Fits
    rw [hnatAbs]
    refine allows_mono (by simpa using hbound) hlength fun hnegative => ?_
    cases negative with
    | true => rfl
    | false => exact absurd (of_decide_eq_true hnegative) (Int.not_lt.mpr (Int.natCast_nonneg _))
  · cases h
    trivial

/-- A number that is read is a float or a short integer. -/
lemma fits_of_number {cs rest : List Char} {v : Json} (depth : Nat)
    (h : number d cs = some (v, rest)) : Fits d depth v := by
  unfold number at h
  split at h
  · split at h
    · cases h
      trivial
    · cases h
  · exact fits_of_magnitude depth h
  · exact fits_of_magnitude depth h

/-- A word stands for its value. -/
lemma eq_of_word {w : String} {cs rest : List Char} {v u : Json} (h : word w v cs = some (u, rest)) :
    u = v := by
  unfold word at h
  split at h
  · cases h
    rfl
  · cases h

/-- What is read is there. -/
lemma eq_some_of_expect {α : Type} {x : Option α} {a : α} (h : expect x = .ok a) : x = some a := by
  cases x with
  | none => cases h
  | some b => exact congrArg some (Except.ok.inj h)

/-! ### Everything that is read -/

/-- What is read with this many steps fits. -/
structure ReadsFitting (d : Dialect) (steps : Nat) : Prop where
  value : ∀ {depth cs v rest}, value d steps depth cs = .ok (v, rest) → Fits d depth v
  items : ∀ {depth cs vs rest}, items d steps depth cs = .ok (vs, rest) → FitsItems d depth vs
  members : ∀ {depth cs pairs rest}, members d steps depth cs = .ok (pairs, rest) →
    FitsMembers d depth pairs

section Step

variable {steps depth : Nat} {cs rest : List Char}

/-- An object fits if the values of the pairs do from which it was put together. -/
lemma fits_ofPairs {pairs : Members} (h : FitsMembers d depth pairs) :
    Fits d (depth + 1) (.obj (ofPairs pairs)) := by
  obtain ⟨hnodup, hmem⟩ := ofPairs_sound pairs
  refine ⟨fun _ => Nat.succ_pos _, hnodup, fitsMembers_iff.mpr fun member hmember => ?_⟩
  exact fitsMembers_iff.mp h member (hmem member hmember)

/-- A list or an object without elements is within the nesting where it was read. -/
lemma nests_of_empty {α : Type} (h : ¬ (d.nestsEmpty = true ∧ depth = 0)) :
    d.nestsEmpty = true ∨ ([] : List α) ≠ [] → 0 < depth := by
  rintro (hcounted | hne)
  · exact Nat.pos_of_ne_zero fun hzero => h ⟨hcounted, hzero⟩
  · exact absurd rfl hne

/-- A value fits, if its parts do. -/
lemma ReadsFitting.value_succ (ih : ReadsFitting d steps) {v : Json}
    (h : Reader.value d (steps + 1) depth cs = .ok (v, rest)) : Fits d depth v := by
  unfold Reader.value at h
  split at h
  · obtain ⟨⟨s, behind⟩, -, h⟩ := Except.exists_of_bind_eq_ok h
    cases h
    trivial
  · split at h
    · split at h
      · cases h
      · rename_i hroom
        cases h
        exact ⟨nests_of_empty hroom, trivial⟩
    · split at h
      · cases h
      · obtain ⟨⟨vs, behind⟩, hitems, h⟩ := Except.exists_of_bind_eq_ok h
        cases h
        exact ⟨fun _ => Nat.succ_pos _, ih.items hitems⟩
  · split at h
    · split at h
      · cases h
      · rename_i hroom
        cases h
        exact ⟨nests_of_empty hroom, List.nodup_nil, trivial⟩
    · split at h
      · cases h
      · obtain ⟨⟨pairs, behind⟩, hmembers, h⟩ := Except.exists_of_bind_eq_ok h
        cases h
        exact fits_ofPairs (ih.members hmembers)
  · rw [eq_of_word (eq_some_of_expect h)]
    trivial
  · rw [eq_of_word (eq_some_of_expect h)]
    trivial
  · rw [eq_of_word (eq_some_of_expect h)]
    trivial
  · rw [eq_of_word (eq_some_of_expect h)]
    trivial
  · rw [eq_of_word (eq_some_of_expect h)]
    trivial
  · exact fits_of_number depth (eq_some_of_expect h)

/-- The values of a list fit, if its first value and the rest do. -/
lemma ReadsFitting.items_succ (ih : ReadsFitting d steps) {vs : List Json}
    (h : Reader.items d (steps + 1) depth cs = .ok (vs, rest)) : FitsItems d depth vs := by
  unfold Reader.items at h
  obtain ⟨⟨v, behind⟩, hvalue, h⟩ := Except.exists_of_bind_eq_ok h
  dsimp only at h
  split at h
  · obtain ⟨⟨ws, behind'⟩, hitems, h⟩ := Except.exists_of_bind_eq_ok h
    cases h
    exact ⟨ih.value hvalue, ih.items hitems⟩
  · cases h
    exact ⟨ih.value hvalue, trivial⟩
  · cases h

/-- The members of an object fit, if its first member and the rest do. -/
lemma ReadsFitting.members_succ (ih : ReadsFitting d steps) {pairs : Members}
    (h : Reader.members d (steps + 1) depth cs = .ok (pairs, rest)) :
    FitsMembers d depth pairs := by
  unfold Reader.members at h
  split at h
  · obtain ⟨⟨key, behind⟩, -, h⟩ := Except.exists_of_bind_eq_ok h
    dsimp only at h
    split at h
    · obtain ⟨⟨v, behind'⟩, hvalue, h⟩ := Except.exists_of_bind_eq_ok h
      dsimp only at h
      split at h
      · obtain ⟨⟨others, behind'⟩, hmembers, h⟩ := Except.exists_of_bind_eq_ok h
        cases h
        exact ⟨ih.value hvalue, ih.members hmembers⟩
      · cases h
        exact ⟨ih.value hvalue, trivial⟩
      · cases h
    · cases h
  · cases h

end Step

/-- Everything that is read fits. -/
lemma readsFitting (d : Dialect) (steps : Nat) : ReadsFitting d steps := by
  induction steps with
  | zero =>
    refine ⟨fun h => ?_, fun h => ?_, fun h => ?_⟩
    · cases h
    · cases h
    · cases h
  | succ steps ih => exact ⟨ih.value_succ, ih.items_succ, ih.members_succ⟩

end Reader

/-- A value that is read from a text is what its first characters write. -/
lemma exists_of_readChars {d : Dialect} {cs : List Char} {v : Json}
    (h : readChars d cs = .ok v) : ∃ rest, Reader.skip rest = [] ∧
      Reader.value d (2 * cs.length + 2) d.nesting cs = .ok (v, rest) := by
  unfold readChars at h
  split at h
  · rename_i u rest hread
    split at h
    · rename_i hrest
      cases h
      exact ⟨rest, hrest, hread⟩
    · cases h
  · cases h

/-- A value that is read from a text fits the dialect. -/
theorem fits_of_readChars {d : Dialect} {cs : List Char} {v : Json} (h : readChars d cs = .ok v) :
    Fits d d.nesting v := by
  obtain ⟨rest, -, hread⟩ := exists_of_readChars h
  exact (Reader.readsFitting d _).value hread

end Teardown.Json
