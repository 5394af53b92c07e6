import Teardown.Proofs.Json.Number
import Teardown.Proofs.Json.Text

/-!
# Written values are read back

The reader undoes the writer: of the compact text of a value it reads the value again, only that
numbers without digits have become null on the way (`recorded`).  It takes the values that fit the
dialect: they are not nested too deeply, their integers are not too long and no key occurs twice in
one of their objects (`readChars_compact`).

The proof is an induction over the steps that the reader has left (`readsBack`), for a value, for the
rest of a list and for the rest of an object at once.  Two steps for each character are enough.
-/

namespace Teardown.Json

mutual

/-- What is read back of a written value: numbers without digits have become null. -/
def recorded : Json → Json
  | .float x =>
    match Decimal.Reading.ofFloat x with
    | .notANumber => .null
    | .infinite _ => .null
    | _ => .float x
  | .arr vs => .arr (recordedItems vs)
  | .obj members => .obj (recordedMembers members)
  | v => v

/-- What is read back of the values of a list. -/
def recordedItems : List Json → List Json
  | [] => []
  | v :: vs => recorded v :: recordedItems vs

/-- What is read back of the members of an object. -/
def recordedMembers : Members → Members
  | [] => []
  | (key, v) :: rest => (key, recorded v) :: recordedMembers rest

end

mutual

/-- A value that is within the bounds of a dialect and has no key twice. -/
def Fits (d : Dialect) (depth : Nat) : Json → Prop
  | .int n => d.allows (n < 0) false (Nat.toDigits 10 n.natAbs).length = true
  | .arr vs => (d.nestsEmpty ∨ vs ≠ [] → 0 < depth) ∧ FitsItems d (depth - 1) vs
  | .obj members => (d.nestsEmpty ∨ members ≠ [] → 0 < depth) ∧ (members.map Prod.fst).Nodup ∧
    FitsMembers d (depth - 1) members
  | _ => True

/-- All values of a list fit. -/
def FitsItems (d : Dialect) (depth : Nat) : List Json → Prop
  | [] => True
  | v :: vs => Fits d depth v ∧ FitsItems d depth vs

/-- The values of all members of an object fit. -/
def FitsMembers (d : Dialect) (depth : Nat) : Members → Prop
  | [] => True
  | (_, v) :: rest => Fits d depth v ∧ FitsMembers d depth rest

end

/-! ### Members with distinct keys -/

/-- The keys of an object are kept. -/
lemma keys_recordedMembers (members : Members) :
    (recordedMembers members).map Prod.fst = members.map Prod.fst := by
  induction members with
  | nil => rfl
  | cons member rest ih => exact congrArg (member.1 :: ·) ih

/-- A member under a new key goes to the end. -/
lemma setMember_of_new {key : String} (v : Json) {members : Members}
    (hnew : key ∉ members.map Prod.fst) : setMember key v members = members ++ [(key, v)] := by
  induction members with
  | nil => rfl
  | cons member rest ih =>
    rw [List.map_cons, List.mem_cons, not_or] at hnew
    unfold setMember
    rw [if_neg (Ne.symm hnew.1), ih hnew.2]
    rfl

/-- Members with distinct keys are kept as they are. -/
lemma ofPairs_of_nodup {members : Members} (hnodup : (members.map Prod.fst).Nodup) :
    ofPairs members = members := by
  induction members using List.reverseRecOn with
  | nil => rfl
  | append_singleton members member ih =>
    rw [List.map_append, List.nodup_append] at hnodup
    obtain ⟨hrest, -, hdisjoint⟩ := hnodup
    have hnew : member.1 ∉ members.map Prod.fst := by
      intro hmem
      exact hdisjoint member.1 hmem member.1 (List.mem_singleton.mpr rfl) rfl
    have hfold : ofPairs (members ++ [member]) = setMember member.1 member.2 (ofPairs members) := by
      unfold ofPairs
      rw [List.foldl_append]
      rfl
    rw [hfold, ih hrest, setMember_of_new _ hnew]

/-- The members of an object fit if their values do. -/
lemma fitsMembers_iff {d : Dialect} {depth : Nat} {members : Members} :
    FitsMembers d depth members ↔ ∀ member ∈ members, Fits d depth member.2 := by
  induction members with
  | nil => simp [FitsMembers]
  | cons member rest ih =>
    obtain ⟨k, v⟩ := member
    simp [FitsMembers, ih]

namespace Reader

open Numeral

/-! ### First characters -/

/-- A text that starts like a number. -/
def StartsNumber : List Char → Prop
  | [] => False
  | c :: _ => c.isDigit = true ∨ c = '-'

/-- A value that starts like a number is read as a number. -/
lemma value_number (d : Dialect) (steps depth : Nat) {cs : List Char} (h : StartsNumber cs) :
    value d (steps + 1) depth cs = expect (number d cs) := by
  cases cs with
  | nil => exact absurd h id
  | cons c cs =>
    rcases h with hc | rfl
    · obtain ⟨k, hk, rfl⟩ := exists_digit hc
      interval_cases k
      all_goals rfl
    · rfl

/-- A text that starts like a value: with a mark that opens one, a letter, a digit or a sign. -/
def StartsValue : List Char → Prop
  | [] => False
  | c :: _ => isLayout c = false ∧ c ≠ ']'

lemma startsValue_of_number {cs : List Char} (h : StartsNumber cs) : StartsValue cs := by
  cases cs with
  | nil => exact absurd h id
  | cons c cs =>
    rcases h with hc | rfl
    · obtain ⟨k, hk, rfl⟩ := exists_digit hc
      interval_cases k
      all_goals exact ⟨rfl, by decide⟩
    · exact ⟨rfl, by decide⟩

/-- A text that starts like a value is not changed by skipping layout. -/
lemma skip_of_startsValue {cs : List Char} (h : StartsValue cs) : skip cs = cs := by
  cases cs with
  | nil => exact absurd h id
  | cons c cs =>
    unfold skip
    rw [List.dropWhile_cons_of_neg (by rw [h.1]; exact Bool.false_ne_true)]

lemma startsNumber_sign (negative : Bool) {n : Numeral} (wellFormed : n.WellFormed)
    (rest : List Char) :
    StartsNumber (signChars negative ++ (n.chars ++ rest)) := by
  cases negative with
  | true => exact .inr rfl
  | false =>
    obtain ⟨c, cs, hwhole⟩ := List.exists_cons_of_ne_nil wellFormed.whole_ne_nil
    have hc : c.isDigit = true := wellFormed.whole_digits c (hwhole ▸ List.mem_cons_self)
    unfold Numeral.chars
    rw [hwhole]
    exact .inl hc

lemma startsNumber_int (n : Int) (rest : List Char) : StartsNumber (Writer.int n ++ rest) := by
  rw [int_eq_chars, List.append_assoc]
  exact startsNumber_sign _ (wellFormed_toDigits _) rest

lemma startsNumber_float {n : Numeral} {negative : Bool} {x : Float} (writes : n.Writes negative x)
    (rest : List Char) : StartsNumber (Writer.float x ++ rest) := by
  rw [writes.chars_eq, List.append_assoc]
  exact startsNumber_sign _ writes.wellFormed rest

/-- A float is written by a numeral or, when it has no digits, as null. -/
lemma float_cases (x : Float) :
    (Writer.float x = "null".toList ∧ recorded (.float x) = .null) ∨
      (∃ n negative, Numeral.Writes n negative x) ∧ recorded (.float x) = .float x := by
  unfold recorded
  cases hreading : Decimal.Reading.ofFloat x with
  | notANumber =>
    refine .inl ⟨?_, rfl⟩
    unfold Writer.float
    rw [hreading]
  | infinite negative =>
    refine .inl ⟨?_, rfl⟩
    unfold Writer.float
    rw [hreading]
  | zero negative =>
    obtain ⟨n, writes⟩ := exists_writes_of_zero hreading
    exact .inr ⟨⟨n, negative, writes⟩, rfl⟩
  | finite negative digits =>
    obtain ⟨n, writes⟩ := exists_writes_of_finite hreading
    exact .inr ⟨⟨n, negative, writes⟩, rfl⟩

/-- Every value is written with a character in front that starts a value. -/
lemma startsValue_value (v : Json) (rest : List Char) : StartsValue (Writer.value v ++ rest) := by
  cases v with
  | null => exact ⟨rfl, by decide⟩
  | bool b =>
    cases b with
    | false => exact ⟨rfl, by decide⟩
    | true => exact ⟨rfl, by decide⟩
  | int n => exact startsValue_of_number (startsNumber_int n rest)
  | float x =>
    rcases float_cases x with ⟨hnull, -⟩ | ⟨⟨n, negative, writes⟩, -⟩
    · have hwritten : Writer.value (.float x) = "null".toList := hnull
      rw [hwritten]
      exact ⟨rfl, by decide⟩
    · exact startsValue_of_number (startsNumber_float writes rest)
  | str s => exact ⟨rfl, by decide⟩
  | arr vs =>
    cases vs with
    | nil => exact ⟨rfl, by decide⟩
    | cons v vs => exact ⟨rfl, by decide⟩
  | obj members =>
    cases members with
    | nil => exact ⟨rfl, by decide⟩
    | cons member rest => exact ⟨rfl, by decide⟩

lemma length_value_pos (v : Json) : 0 < (Writer.value v).length := by
  have hstarts := startsValue_value v []
  rw [List.append_nil] at hstarts
  cases hvalue : Writer.value v with
  | nil =>
    rw [hvalue] at hstarts
    exact absurd hstarts id
  | cons c cs => exact Nat.succ_pos _

lemma ends_items (vs : List Json) (rest : List Char) : Ends (Writer.items vs ++ rest) := by
  cases vs with
  | nil => exact .inr (.inl rfl)
  | cons v vs => exact .inl rfl

lemma ends_members (members : Members) (rest : List Char) :
    Ends (Writer.members members ++ rest) := by
  cases members with
  | nil => exact .inr (.inr rfl)
  | cons member members => exact .inl rfl

/-! ### One step of the reader -/

section Step

variable {d : Dialect} {steps depth : Nat} {cs : List Char}

/-- A list with a first value is read behind its bracket. -/
lemma value_bracket (h : StartsValue cs) : value d (steps + 1) (depth + 1) ('[' :: cs) =
    (items d steps depth cs).map fun read => (.arr read.1, read.2) := by
  have hskip : skip ('[' :: cs) = '[' :: cs := rfl
  conv => lhs; unfold value
  simp only [hskip]
  rw [skip_of_startsValue h]
  split
  · exact absurd rfl h.2
  · cases items d steps depth cs with
    | error fault => rfl
    | ok read => rfl

/-- A list without values is read, if the nesting leaves room for it. -/
lemma value_brackets (h : d.nestsEmpty → 0 < depth) :
    value d (steps + 1) depth ('[' :: ']' :: cs) = .ok (.arr [], cs) := by
  have hroom : ¬ (d.nestsEmpty = true ∧ depth = 0) := fun hnone => (h hnone.1).ne' hnone.2
  exact if_neg hroom

/-- Brackets that open more lists than the nesting has room for are too deep. -/
lemma value_replicate_bracket (d : Dialect) (depth more : Nat) {steps : Nat}
    (hsteps : 2 * depth < steps) :
    value d steps depth (List.replicate (depth + 1 + more) '[') = .error .deepList := by
  induction depth generalizing steps with
  | zero =>
    obtain ⟨k, rfl⟩ : ∃ k, steps = k + 1 := ⟨steps - 1, by omega⟩
    rw [Nat.zero_add, Nat.add_comm 1 more, List.replicate_succ]
    cases more with
    | zero => rfl
    | succ more => rfl
  | succ depth ih =>
    obtain ⟨k, rfl⟩ : ∃ k, steps = k + 2 := ⟨steps - 2, by omega⟩
    have hstarts : StartsValue (List.replicate (depth + 1 + more) '[') := by
      rw [Nat.add_right_comm, List.replicate_succ]
      exact ⟨rfl, by decide⟩
    rw [Nat.add_right_comm, List.replicate_succ, value_bracket hstarts, items, ih (by omega)]
    rfl

/-- An object with a first key is read behind its brace. -/
lemma value_brace : value d (steps + 1) (depth + 1) ('\x7b' :: '"' :: cs) =
    (members d steps depth ('"' :: cs)).map fun read => (.obj (ofPairs read.1), read.2) := by
  have hskip : skip ('\x7b' :: '"' :: cs) = '\x7b' :: '"' :: cs := rfl
  have hquote : skip ('"' :: cs) = '"' :: cs := rfl
  conv => lhs; unfold value
  simp only [hskip, hquote]
  split
  · rename_i heq
    cases heq
  · cases members d steps depth ('"' :: cs) with
    | error fault => rfl
    | ok read => rfl

/-- An object without members is read, if the nesting leaves room for it. -/
lemma value_braces (h : d.nestsEmpty → 0 < depth) :
    value d (steps + 1) depth ('\x7b' :: '\x7d' :: cs) = .ok (.obj [], cs) := by
  have hroom : ¬ (d.nestsEmpty = true ∧ depth = 0) := fun hnone => (h hnone.1).ne' hnone.2
  exact if_neg hroom

/-- Behind a comma the values of a list go on. -/
lemma items_comma {v : Json} {rest behind : List Char}
    (h : value d steps depth cs = .ok (v, rest)) (hskip : skip rest = ',' :: behind) :
    items d (steps + 1) depth cs =
      (items d steps depth behind).map fun read => (v :: read.1, read.2) := by
  conv => lhs; unfold items
  simp only [h, hskip, bind, Except.bind]
  cases items d steps depth behind with
  | error fault => rfl
  | ok read => rfl

/-- A bracket closes a list. -/
lemma items_bracket {v : Json} {rest behind : List Char}
    (h : value d steps depth cs = .ok (v, rest)) (hskip : skip rest = ']' :: behind) :
    items d (steps + 1) depth cs = .ok ([v], behind) := by
  conv => lhs; unfold items
  simp only [h, hskip, bind, Except.bind]
  rfl

section Member

variable {key : String} {v : Json} {written rest behind : List Char}
  (hkey : text d cs = some (key, ':' :: written))
  (hvalue : value d steps depth written = .ok (v, rest))

include hkey hvalue

/-- Behind a comma the members of an object go on. -/
lemma members_comma (hskip : skip rest = ',' :: behind) : members d (steps + 1) depth ('"' :: cs) =
    (members d steps depth behind).map fun read => ((key, v) :: read.1, read.2) := by
  have hquote : skip ('"' :: cs) = '"' :: cs := rfl
  have hcolon : skip (':' :: written) = ':' :: written := rfl
  conv => lhs; unfold members
  simp only [hquote, hkey, expect, hcolon, hvalue, hskip, bind, Except.bind]
  cases members d steps depth behind with
  | error fault => rfl
  | ok read => rfl

/-- A brace closes an object. -/
lemma members_brace (hskip : skip rest = '\x7d' :: behind) :
    members d (steps + 1) depth ('"' :: cs) = .ok ([(key, v)], behind) := by
  have hquote : skip ('"' :: cs) = '"' :: cs := rfl
  have hcolon : skip (':' :: written) = ':' :: written := rfl
  conv => lhs; unfold members
  simp only [hquote, hkey, expect, hcolon, hvalue, hskip, bind, Except.bind]
  rfl

end Member

end Step

/-! ### All steps of the reader -/

/-- With this many steps, what was written with at most half as many characters is read back. -/
structure ReadsBack (d : Dialect) (steps : Nat) : Prop where
  value : ∀ v depth rest, Fits d depth v → Ends rest → 2 * (Writer.value v).length ≤ steps →
    value d steps depth (Writer.value v ++ rest) = .ok (recorded v, rest)
  items : ∀ v vs depth rest, FitsItems d depth (v :: vs) →
    2 * (Writer.value v ++ Writer.items vs).length ≤ steps →
    items d steps depth (Writer.value v ++ (Writer.items vs ++ rest)) =
      .ok (recordedItems (v :: vs), rest)
  members : ∀ key v pairs depth rest, FitsMembers d depth ((key, v) :: pairs) →
    2 * (Writer.text key ++ ':' :: Writer.value v ++ Writer.members pairs).length ≤ steps →
    members d steps depth
      (Writer.text key ++ ':' :: (Writer.value v ++ (Writer.members pairs ++ rest))) =
        .ok (recordedMembers ((key, v) :: pairs), rest)

section Induction

variable {d : Dialect} {steps : Nat}

/-- A written list is read back, if its parts are. -/
lemma ReadsBack.list_succ (h : ReadsBack d steps) (v : Json) (vs : List Json) (depth : Nat)
    (rest : List Char) (hfits : FitsItems d depth (v :: vs))
    (hsteps : 2 * (Writer.value (.arr (v :: vs))).length ≤ steps + 1) :
    Reader.value d (steps + 1) (depth + 1) (Writer.value (.arr (v :: vs)) ++ rest) =
      .ok (recorded (.arr (v :: vs)), rest) := by
  have hwritten : Writer.value (.arr (v :: vs)) ++ rest =
      '[' :: (Writer.value v ++ (Writer.items vs ++ rest)) := by
    simp [Writer.value]
  have hlength : (Writer.value (.arr (v :: vs))).length =
      (Writer.value v ++ Writer.items vs).length + 1 := by
    simp [Writer.value]
  rw [hwritten, value_bracket (startsValue_value v _), h.items v vs depth rest hfits (by omega)]
  rfl

/-- A written object with distinct keys is read back, if its parts are. -/
lemma ReadsBack.object_succ (h : ReadsBack d steps) (key : String) (v : Json) (pairs : Members)
    (depth : Nat) (rest : List Char) (hkeys : (((key, v) :: pairs).map Prod.fst).Nodup)
    (hfits : FitsMembers d depth ((key, v) :: pairs))
    (hsteps : 2 * (Writer.value (.obj ((key, v) :: pairs))).length ≤ steps + 1) :
    Reader.value d (steps + 1) (depth + 1) (Writer.value (.obj ((key, v) :: pairs)) ++ rest) =
      .ok (recorded (.obj ((key, v) :: pairs)), rest) := by
  have hwritten : Writer.value (.obj ((key, v) :: pairs)) ++ rest =
      '\x7b' :: (Writer.text key ++ ':' :: (Writer.value v ++ (Writer.members pairs ++ rest))) := by
    simp [Writer.value]
  have hlength : (Writer.value (.obj ((key, v) :: pairs))).length =
      (Writer.text key ++ ':' :: Writer.value v ++ Writer.members pairs).length + 1 := by
    simp [Writer.value]
  have hread := h.members key v pairs depth rest hfits (by omega)
  have hquoted := (text_text d key (':' :: (Writer.value v ++ (Writer.members pairs ++ rest)))).1
  rw [← keys_recordedMembers] at hkeys
  rw [hquoted] at hread
  rw [hwritten, hquoted, value_brace, hread, Except.map, ofPairs_of_nodup hkeys]
  rfl

/-- A written value is read back, if its parts are. -/
lemma ReadsBack.value_succ (h : ReadsBack d steps) (v : Json) (depth : Nat) (rest : List Char)
    (hfits : Fits d depth v) (hends : Ends rest)
    (hsteps : 2 * (Writer.value v).length ≤ steps + 1) :
    Reader.value d (steps + 1) depth (Writer.value v ++ rest) = .ok (recorded v, rest) := by
  cases v with
  | null => rfl
  | bool b =>
    cases b with
    | false => rfl
    | true => rfl
  | int n =>
    rw [Writer.value, value_number d steps depth (startsNumber_int n rest), number_int n hends hfits]
    rfl
  | float x =>
    rcases float_cases x with ⟨hnull, hrecorded⟩ | ⟨⟨n, negative, writes⟩, hrecorded⟩
    · have hwritten : Writer.value (.float x) = "null".toList := hnull
      rw [hwritten, hrecorded]
      rfl
    · rw [hrecorded, Writer.value, value_number d steps depth (startsNumber_float writes rest),
        number_float writes hends]
      rfl
  | str s =>
    obtain ⟨hwritten, hread⟩ := text_text d s rest
    have hunfold : Reader.value d (steps + 1) depth
        ('"' :: (s.toList.flatMap Writer.escape ++ '"' :: rest)) =
        (expect (text d (s.toList.flatMap Writer.escape ++ '"' :: rest))).bind fun read =>
          .ok (.str read.1, read.2) := rfl
    have hvalue : Writer.value (.str s) = Writer.text s := rfl
    rw [hvalue, hwritten, hunfold, hread]
    rfl
  | arr vs =>
    obtain ⟨hdepth, hitems⟩ := hfits
    cases vs with
    | nil => exact value_brackets fun hcounted => hdepth (.inl hcounted)
    | cons v vs =>
      have hpos : 0 < depth := hdepth (.inr (List.cons_ne_nil _ _))
      obtain ⟨depth, rfl⟩ : ∃ k, depth = k + 1 := ⟨depth - 1, by omega⟩
      exact h.list_succ v vs depth rest hitems hsteps
  | obj pairs =>
    obtain ⟨hdepth, hkeys, hmembers⟩ := hfits
    cases pairs with
    | nil => exact value_braces fun hcounted => hdepth (.inl hcounted)
    | cons pair pairs =>
      have hpos : 0 < depth := hdepth (.inr (List.cons_ne_nil _ _))
      obtain ⟨depth, rfl⟩ : ∃ k, depth = k + 1 := ⟨depth - 1, by omega⟩
      exact h.object_succ pair.1 pair.2 pairs depth rest hkeys hmembers hsteps

/-- The rest of a written list is read back, if its parts are. -/
lemma ReadsBack.items_succ (h : ReadsBack d steps) (v : Json) (vs : List Json) (depth : Nat)
    (rest : List Char) (hfits : FitsItems d depth (v :: vs))
    (hsteps : 2 * (Writer.value v ++ Writer.items vs).length ≤ steps + 1) :
    Reader.items d (steps + 1) depth (Writer.value v ++ (Writer.items vs ++ rest)) =
      .ok (recordedItems (v :: vs), rest) := by
  rw [List.length_append] at hsteps
  have hbehind : 0 < (Writer.items vs).length := by
    cases vs with
    | nil => decide
    | cons w ws => exact Nat.succ_pos _
  have hvalue := h.value v depth _ hfits.1 (ends_items vs rest) (by omega)
  cases vs with
  | nil => exact items_bracket hvalue rfl
  | cons w ws =>
    have hwritten : Writer.items (w :: ws) ++ rest =
        ',' :: (Writer.value w ++ (Writer.items ws ++ rest)) := by
      simp [Writer.items]
    have hcomma : skip (',' :: (Writer.value w ++ (Writer.items ws ++ rest))) =
        ',' :: (Writer.value w ++ (Writer.items ws ++ rest)) := rfl
    have hlength : (Writer.items (w :: ws)).length =
        (Writer.value w ++ Writer.items ws).length + 1 := by
      simp [Writer.items]
    have hpos := length_value_pos v
    have hread := h.items w ws depth rest hfits.2 (by omega)
    rw [hwritten] at hvalue ⊢
    rw [items_comma hvalue hcomma, hread]
    rfl

/-- The rest of a written object is read back, if its parts are. -/
lemma ReadsBack.members_succ (h : ReadsBack d steps) (key : String) (v : Json) (pairs : Members)
    (depth : Nat) (rest : List Char) (hfits : FitsMembers d depth ((key, v) :: pairs))
    (hsteps : 2 * (Writer.text key ++ ':' :: Writer.value v ++ Writer.members pairs).length ≤
      steps + 1) :
    Reader.members d (steps + 1) depth
      (Writer.text key ++ ':' :: (Writer.value v ++ (Writer.members pairs ++ rest))) =
        .ok (recordedMembers ((key, v) :: pairs), rest) := by
  rw [List.length_append, List.length_append, List.length_cons] at hsteps
  obtain ⟨hwritten, hkey⟩ :=
    text_text d key (':' :: (Writer.value v ++ (Writer.members pairs ++ rest)))
  have hvalue := h.value v depth _ hfits.1 (ends_members pairs rest) (by omega)
  rw [hwritten]
  cases pairs with
  | nil => exact members_brace hkey hvalue rfl
  | cons pair pairs =>
    obtain ⟨key', w⟩ := pair
    have hwritten' : Writer.members ((key', w) :: pairs) ++ rest =
        ',' :: (Writer.text key' ++ ':' :: (Writer.value w ++ (Writer.members pairs ++ rest))) := by
      simp [Writer.members]
    have hlength : (Writer.members ((key', w) :: pairs)).length =
        (Writer.text key' ++ ':' :: Writer.value w ++ Writer.members pairs).length + 1 := by
      simp [Writer.members]
    have hread := h.members key' w pairs depth rest hfits.2 (by omega)
    have hcomma : skip (Writer.members ((key', w) :: pairs) ++ rest) =
        ',' :: (Writer.text key' ++ ':' :: (Writer.value w ++ (Writer.members pairs ++ rest))) := by
      rw [hwritten']
      rfl
    rw [members_comma hkey hvalue hcomma, hread]
    rfl

/-- Everything that was written is read back. -/
lemma readsBack (d : Dialect) (steps : Nat) : ReadsBack d steps := by
  induction steps with
  | zero =>
    refine ⟨fun v depth rest _ _ hsteps => ?_, fun v vs depth rest _ hsteps => ?_,
      fun key v pairs depth rest _ hsteps => ?_⟩
    · have hpos := length_value_pos v
      omega
    · have hpos := length_value_pos v
      rw [List.length_append] at hsteps
      omega
    · rw [List.length_append, List.length_append, List.length_cons] at hsteps
      omega
  | succ steps ih => exact ⟨ih.value_succ, ih.items_succ, ih.members_succ⟩

end Induction

end Reader

/-- The compact text of a value that fits a dialect is read back. -/
theorem readChars_compact {d : Dialect} {v : Json} (hfits : Fits d d.nesting v) :
    readChars d v.compact.toList = .ok (recorded v) := by
  have hread := (Reader.readsBack d (2 * (Writer.value v).length + 2)).value v d.nesting [] hfits
    trivial (by omega)
  rw [List.append_nil] at hread
  unfold readChars compact
  rw [String.toList_ofList, hread]
  rfl

/-- A text of more brackets than the nesting has room for is too deep. -/
theorem readChars_replicate_bracket (d : Dialect) (more : Nat) :
    readChars d (List.replicate (d.nesting + 1 + more) '[') = .error .deepList := by
  unfold readChars
  rw [List.length_replicate, Reader.value_replicate_bracket d d.nesting more (by omega)]

end Teardown.Json
