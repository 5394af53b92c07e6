import Teardown.Json.Reader
import Teardown.Json.Writer
import Teardown.Proofs.Decimal.ReadBack

/-!
# Written numbers are read back

The writer has several layouts for a float, with or without a point and with or without an exponent.
A `Numeral` is the common form of them all, and the reader takes a well-formed numeral apart as it
was put together, whatever follows it in a list or in an object: `magnitude_chars`.  So an integer
and a finite float are read back as they were: `number_int` and `number_float`.
-/

namespace Teardown.Json

/-- What may follow a written value: nothing, or a mark of the list or the object around it. -/
def Ends : List Char → Prop
  | [] => True
  | c :: _ => c = ',' ∨ c = ']' ∨ c = '\x7d'

namespace Reader

/-! ### Runs of digits -/

/-- A text that does not go on with a digit. -/
def Stops : List Char → Prop
  | [] => True
  | c :: _ => c.isDigit = false

section Digits

variable {cs rest : List Char}

/-- A run of digits is taken as a whole. -/
lemma takeWhile_digits (hdigits : ∀ c ∈ cs, c.isDigit = true) (hstop : Stops rest) :
    (cs ++ rest).takeWhile Char.isDigit = cs := by
  rw [List.takeWhile_append_of_pos hdigits]
  cases rest with
  | nil => simp
  | cons c rest =>
    have hc : c.isDigit = false := hstop
    simp [hc]

/-- After a run of digits the text goes on with what is no digit. -/
lemma dropWhile_digits (hdigits : ∀ c ∈ cs, c.isDigit = true) (hstop : Stops rest) :
    (cs ++ rest).dropWhile Char.isDigit = rest := by
  rw [List.dropWhile_append_of_pos hdigits]
  cases rest with
  | nil => rfl
  | cons c rest =>
    have hc : c.isDigit = false := hstop
    simp [hc]

end Digits

lemma natOfDigits_eq (cs : List Char) : natOfDigits cs = Nat.ofDigitChars 10 cs 0 :=
  Nat.ofDigitChars_eq_foldl.symm

/-- The number of two runs of digits in a row. -/
lemma natOfDigits_append (cs ds : List Char) :
    natOfDigits (cs ++ ds) = natOfDigits cs * 10 ^ ds.length + natOfDigits ds := by
  rw [natOfDigits_eq, natOfDigits_eq, natOfDigits_eq, Nat.ofDigitChars_append,
    Nat.ofDigitChars_eq_ofDigitChars_zero, Nat.mul_comm]

/-- The digits of a number write this number. -/
lemma natOfDigits_toDigits (n : Nat) : natOfDigits (Nat.toDigits 10 n) = n := by
  rw [natOfDigits_eq, Nat.ofDigitChars_ten_toDigits]

/-- A run of zeros writes zero. -/
lemma natOfDigits_zeros (k : Nat) : natOfDigits (List.replicate k '0') = 0 := by
  rw [natOfDigits_eq, Nat.ofDigitChars_replicate_zero, Nat.mul_zero]

/-- The digits are ten characters. -/
lemma exists_digit {c : Char} (hc : c.isDigit = true) : ∃ k < 10, c = Nat.digitChar k := by
  have hbounds : 48 ≤ c.toNat ∧ c.toNat ≤ 57 := by
    unfold Char.isDigit at hc
    rw [Bool.and_eq_true, decide_eq_true_eq, decide_eq_true_eq] at hc
    exact hc
  refine ⟨c.toNat - 48, by omega, ?_⟩
  apply Char.toNat_inj.mp
  rw [Nat.toNat_digitChar_of_lt_ten (by omega)]
  omega

/-- Decimal digits write a number below the power of ten of their number. -/
lemma natOfDigits_lt {digits : List Char} (hdigits : ∀ c ∈ digits, c.isDigit = true) :
    natOfDigits digits < 10 ^ digits.length := by
  induction digits using List.reverseRecOn with
  | nil => exact Nat.one_pos
  | append_singleton digits c ih =>
    have hfront := ih fun c hc => hdigits c (List.mem_append_left _ hc)
    obtain ⟨k, hk, rfl⟩ := exists_digit
      (hdigits c (List.mem_append_right _ (List.mem_singleton.mpr rfl)))
    have hlast : natOfDigits [Nat.digitChar k] = k := by
      interval_cases k
      all_goals rfl
    rw [natOfDigits_append, hlast, List.length_append, List.length_singleton, pow_succ]
    omega

/-- A number that was read from digits needs no more digits than these. -/
lemma length_toDigits_natOfDigits {digits : List Char} (hne : digits ≠ [])
    (hdigits : ∀ c ∈ digits, c.isDigit = true) :
    (Nat.toDigits 10 (natOfDigits digits)).length ≤ digits.length :=
  (Nat.length_toDigits_le_iff (by decide) (List.length_pos_iff.mpr hne)).mpr
    (natOfDigits_lt hdigits)

/-- The digits of a number are decimal digits. -/
lemma isDigit_toDigits (n : Nat) : ∀ c ∈ Nat.toDigits 10 n, c.isDigit = true :=
  fun _ hc => Nat.isDigit_of_mem_toDigits (by decide) (by decide) hc

/-- The first digit of a positive number is not zero. -/
lemma head_toDigits {n : Nat} (hn : 0 < n) : (Nat.toDigits 10 n).head? ≠ some '0' := by
  induction n using Nat.strongRecOn with
  | ind n ih =>
    rcases Nat.lt_or_ge n 10 with hlt | hge
    · rw [Nat.toDigits_of_lt_base hlt]
      intro hhead
      have hzero : n.digitChar = '0' := Option.some.inj hhead
      rw [Nat.digitChar_eq_zero] at hzero
      omega
    · rw [Nat.toDigits_of_base_le (by decide) hge, List.head?_append_of_ne_nil _ Nat.toDigits_ne_nil]
      exact ih (n / 10) (by omega) (by omega)

/-! ### Numerals -/

/-- The parts of a written number. -/
structure Numeral where
  whole : List Char
  /-- The digits after the point; there is no point without them. -/
  places : List Char
  power : Option Int

namespace Numeral

/-- The places of a number after its point. -/
def placesChars : List Char → List Char
  | [] => []
  | c :: cs => '.' :: c :: cs

lemma placesChars_of_ne_nil {places : List Char} (h : places ≠ []) :
    placesChars places = '.' :: places := by
  cases places with
  | nil => exact absurd rfl h
  | cons c cs => rfl

/-- The exponent of a number after its mark. -/
def powerChars : Option Int → List Char
  | none => []
  | some e => 'e' :: (if e < 0 then '-' else '+') :: Nat.toDigits 10 e.natAbs

/-- The text of a number. -/
def chars (n : Numeral) : List Char :=
  n.whole ++ (placesChars n.places ++ powerChars n.power)

/-- A numeral has a digit in front, which is a zero only if it is the only one there. -/
structure WellFormed (n : Numeral) : Prop where
  whole_ne_nil : n.whole ≠ []
  whole_digits : ∀ c ∈ n.whole, c.isDigit = true
  whole_head : 1 < n.whole.length → n.whole.head? ≠ some '0'
  places_digits : ∀ c ∈ n.places, c.isDigit = true

/-- A numeral with nothing but a zero in front. -/
lemma wellFormed_of_zero {places : List Char} {power : Option Int}
    (hplaces : ∀ c ∈ places, c.isDigit = true) : WellFormed ⟨['0'], places, power⟩ := by
  refine ⟨List.cons_ne_nil _ _, fun c hc => ?_, fun h => absurd h (lt_irrefl 1), hplaces⟩
  rw [List.mem_singleton.mp hc]
  rfl

/-- The value of a numeral. -/
def value (n : Numeral) : ℚ :=
  natOfDigits (n.whole ++ n.places) * 10 ^ (n.power.getD 0 - (n.places.length : Int))

/-- The float that is read from a numeral behind a sign. -/
def float (n : Numeral) (negative : Bool) : Float :=
  Decimal.ofDigits negative (natOfDigits (n.whole ++ n.places))
    (n.power.getD 0 - (n.places.length : Int))

/-- A numeral with a point or an exponent. -/
def decimal (n : Numeral) : Bool :=
  n.places ≠ [] || n.power.isSome

/-- A numeral that is the text of a positive number, not read as an integer, and so short in front
that every dialect has room for it. -/
structure Spells (n : Numeral) (text : String) (q : ℚ) : Prop where
  wellFormed : n.WellFormed
  decimal : n.decimal = true
  short : n.whole.length ≤ 16
  chars_eq : text.toList = n.chars
  value_eq : n.value = q

/-- The sign in front of a number. -/
def signChars (negative : Bool) : List Char :=
  if negative then ['-'] else []

end Numeral

open Numeral

/-- Every dialect has room for the digits of a float in front. -/
lemma allows_decimal {d : Dialect} (negative : Bool) {digits : Nat} (h : digits ≤ 16) :
    d.allows negative true digits = true := by
  have hroom := d.wholeLength_decimal
  unfold Dialect.allows
  rw [Option.all_eq_true] at hroom ⊢
  intro limit hlimit
  have hlimit' : 17 ≤ limit := of_decide_eq_true (hroom limit hlimit)
  apply decide_eq_true
  split
  · omega
  · omega

lemma stops_of_ends {rest : List Char} (h : Ends rest) : Stops rest := by
  cases rest with
  | nil => trivial
  | cons c rest =>
    rcases h with rfl | rfl | rfl
    · rfl
    · rfl
    · rfl

lemma stops_powerChars {rest : List Char} (power : Option Int) (h : Ends rest) :
    Stops (powerChars power ++ rest) := by
  cases power with
  | none => exact stops_of_ends h
  | some e => rfl

lemma stops_placesChars {rest : List Char} (places : List Char) (power : Option Int)
    (h : Ends rest) : Stops (placesChars places ++ (powerChars power ++ rest)) := by
  cases places with
  | nil => exact stops_powerChars power h
  | cons c cs => rfl

/-- The places are read, if there are any. -/
lemma fraction_placesChars {places rest : List Char} (power : Option Int)
    (hdigits : ∀ c ∈ places, c.isDigit = true) (hrest : Ends rest) :
    fraction (placesChars places ++ (powerChars power ++ rest)) =
      some (if places = [] then none else some places, powerChars power ++ rest) := by
  have hstop := stops_powerChars power hrest
  cases places with
  | nil =>
    cases power with
    | none =>
      cases rest with
      | nil => rfl
      | cons c rest =>
        rcases hrest with rfl | rfl | rfl
        · rfl
        · rfl
        · rfl
    | some e => rfl
  | cons c cs =>
    have hpoint : placesChars (c :: cs) ++ (powerChars power ++ rest) =
        '.' :: ((c :: cs) ++ (powerChars power ++ rest)) := rfl
    rw [hpoint]
    unfold fraction
    simp only [takeWhile_digits hdigits hstop, dropWhile_digits hdigits hstop]
    rfl

/-- An exponent is read behind its mark and its sign. -/
lemma exponent_signed (e : Int) {rest : List Char} (hrest : Ends rest) (sign : Char)
    (hsign : sign = if e < 0 then '-' else '+') :
    exponent ('e' :: sign :: (Nat.toDigits 10 e.natAbs ++ rest)) = some (some e, rest) := by
  have hstop := stops_of_ends hrest
  have htake := takeWhile_digits (isDigit_toDigits e.natAbs) hstop
  have hdrop := dropWhile_digits (isDigit_toDigits e.natAbs) hstop
  have hne : Nat.toDigits 10 e.natAbs ≠ [] := Nat.toDigits_ne_nil
  have hread := natOfDigits_toDigits e.natAbs
  -- The digits stay opaque from here on, for the reader only asks whether there are any.
  generalize Nat.toDigits 10 e.natAbs = digits at *
  obtain ⟨c, cs, rfl⟩ := List.exists_cons_of_ne_nil hne
  unfold exponent
  by_cases hneg : e < 0
  · rw [if_pos hneg] at hsign
    subst hsign
    have hvalue : -(e.natAbs : Int) = e := by omega
    simp only [htake, hdrop, hread, hvalue, if_true]
  · rw [if_neg hneg] at hsign
    subst hsign
    have hvalue : (e.natAbs : Int) = e := by omega
    simp only [htake, hdrop, hread, hvalue, Bool.false_eq_true, if_false]

/-- The exponent is read, if there is one. -/
lemma exponent_powerChars {rest : List Char} (power : Option Int) (hrest : Ends rest) :
    exponent (powerChars power ++ rest) = some (power, rest) := by
  cases power with
  | none =>
    cases rest with
    | nil => rfl
    | cons c rest =>
      rcases hrest with rfl | rfl | rfl
      · rfl
      · rfl
      · rfl
  | some e => exact exponent_signed e hrest _ rfl

/-! ### Reading a numeral -/

section Magnitude

variable {d : Dialect} {n : Numeral} {rest : List Char}

/-- The digits in front of a well-formed numeral are read. -/
lemma whole_chars (wellFormed : n.WellFormed) (hrest : Ends rest) :
    (n.chars ++ rest).takeWhile Char.isDigit = n.whole ∧
      (n.chars ++ rest).dropWhile Char.isDigit =
        placesChars n.places ++ (powerChars n.power ++ rest) := by
  have hstop := stops_placesChars n.places n.power hrest
  unfold Numeral.chars
  rw [List.append_assoc, List.append_assoc]
  exact ⟨takeWhile_digits wellFormed.whole_digits hstop,
    dropWhile_digits wellFormed.whole_digits hstop⟩

/-- A numeral that is not too long is read, with a point or an exponent as a float, and else as an
integer. -/
lemma magnitude_chars (negative : Bool) (wellFormed : n.WellFormed) (hrest : Ends rest)
    (hfits : d.allows negative n.decimal n.whole.length = true) :
    magnitude d negative (n.chars ++ rest) =
      some (if n.decimal then .float (n.float negative)
        else .int (if negative then -(natOfDigits n.whole : Int) else natOfDigits n.whole),
        rest) := by
  obtain ⟨hwhole, hafter⟩ := whole_chars wellFormed hrest
  have hplaces := fraction_placesChars n.power wellFormed.places_digits hrest
  have hpower := exponent_powerChars n.power hrest
  have haccepted : ¬ (n.whole = [] ∨ (1 < n.whole.length ∧ n.whole.head? = some '0')) := by
    rintro (hnil | ⟨hlength, hzero⟩)
    · exact wellFormed.whole_ne_nil hnil
    · exact wellFormed.whole_head hlength hzero
  have hmarked : ((if n.places = [] then none else some n.places).isSome || n.power.isSome) =
      n.decimal := by
    unfold Numeral.decimal
    split
    · rename_i hnil
      simp [hnil]
    · rename_i hcons
      simp [hcons]
  unfold magnitude
  rw [hwhole, hafter]
  dsimp only
  rw [if_neg haccepted, hplaces]
  simp only [Option.bind_eq_bind, Option.bind_some, hpower, hmarked, hfits]
  unfold Numeral.float Numeral.decimal
  cases n.places with
  | nil =>
    cases n.power with
    | none => rfl
    | some e => rfl
  | cons c cs => rfl

/-- The sign of a number is read before its digits. -/
lemma number_sign (negative : Bool) {c : Char} {cs : List Char} (hc : c.isDigit = true) :
    number d (signChars negative ++ c :: cs) = magnitude d negative (c :: cs) := by
  cases negative with
  | false =>
    have hne : c ≠ '-' := fun h => absurd (h ▸ hc) (by decide)
    change number d (c :: cs) = _
    unfold number
    split
    · rename_i heq
      exact absurd (List.cons.inj heq).1 hne
    · rename_i heq
      exact absurd (List.cons.inj heq).1 hne
    · rfl
  | true =>
    have hne : c ≠ 'I' := fun h => absurd (h ▸ hc) (by decide)
    change number d ('-' :: c :: cs) = _
    unfold number
    split
    · rename_i heq
      exact absurd (List.cons.inj (List.cons.inj heq).2).1 hne
    · rename_i heq
      rw [(List.cons.inj heq).2]
    · rename_i hfirst hsecond
      exact absurd rfl (hsecond (c :: cs))

/-- A numeral with a sign is read as its magnitude. -/
lemma number_chars (negative : Bool) (wellFormed : n.WellFormed) :
    number d (signChars negative ++ (n.chars ++ rest)) =
      magnitude d negative (n.chars ++ rest) := by
  obtain ⟨c, cs, hwhole⟩ := List.exists_cons_of_ne_nil wellFormed.whole_ne_nil
  have hc : c.isDigit = true := wellFormed.whole_digits c (hwhole ▸ List.mem_cons_self)
  have hchars : n.chars ++ rest =
      c :: (cs ++ (placesChars n.places ++ powerChars n.power) ++ rest) := by
    unfold Numeral.chars
    rw [hwhole]
    rfl
  rw [hchars]
  exact number_sign negative hc

end Magnitude

/-! ### Integers -/

/-- The digits of a number are a numeral. -/
lemma wellFormed_toDigits (n : Nat) : WellFormed ⟨Nat.toDigits 10 n, [], none⟩ := by
  refine ⟨Nat.toDigits_ne_nil, isDigit_toDigits n, fun hlength => ?_, fun c hc => ?_⟩
  · apply head_toDigits
    apply Nat.pos_of_ne_zero
    rintro rfl
    exact absurd hlength (by decide)
  · exact absurd hc List.not_mem_nil

/-- The decimal text of an integer is what is written of it. -/
lemma int_eq_toString (n : Int) : Writer.int n = (toString n).toList := by
  have hdigits : ∀ k, (String.ofList (Nat.toDigits 10 k)).toList = Nat.toDigits 10 k :=
    fun _ => String.toList_ofList
  cases n with
  | ofNat k => exact (hdigits k).symm
  | negSucc k =>
    have htext : toString (Int.negSucc k) = "-" ++ String.ofList (Nat.toDigits 10 (k + 1)) := rfl
    rw [htext, String.toList_append, hdigits, Writer.int, if_pos (Int.negSucc_lt_zero k)]
    rfl

/-- A written integer is a numeral behind its sign. -/
lemma int_eq_chars (n : Int) : Writer.int n =
    signChars (decide (n < 0)) ++ Numeral.chars ⟨Nat.toDigits 10 n.natAbs, [], none⟩ := by
  simp [Writer.int, signChars, Numeral.chars, placesChars, powerChars]

/-- A written integer is read back, if it is not too long. -/
lemma number_int {d : Dialect} (n : Int) {rest : List Char} (hrest : Ends rest)
    (hfits : d.allows (n < 0) false (Nat.toDigits 10 n.natAbs).length = true) :
    number d (Writer.int n ++ rest) = some (.int n, rest) := by
  have wellFormed := wellFormed_toDigits n.natAbs
  have hvalue : (if decide (n < 0) = true then -(n.natAbs : Int) else n.natAbs) = n := by
    split
    · rename_i hsign
      have hneg : n < 0 := of_decide_eq_true hsign
      omega
    · rename_i hsign
      have hnonneg : ¬ n < 0 := fun h => hsign (decide_eq_true h)
      omega
  rw [int_eq_chars, List.append_assoc, number_chars _ wellFormed,
    magnitude_chars _ wellFormed hrest hfits]
  change some (Json.int (if decide (n < 0) = true then
    -(natOfDigits (Nat.toDigits 10 n.natAbs) : Int) else natOfDigits (Nat.toDigits 10 n.natAbs)),
    rest) = _
  rw [natOfDigits_toDigits, hvalue]

/-! ### Floats -/

/-- A numeral that is written for a float behind its sign, and that is read as this float. -/
structure Numeral.Writes (n : Numeral) (negative : Bool) (x : Float) : Prop where
  wellFormed : n.WellFormed
  /-- It is not read as an integer. -/
  decimal : n.decimal = true
  /-- Every dialect has room for it. -/
  short : n.whole.length ≤ 16
  chars_eq : Writer.float x = signChars negative ++ n.chars
  float_eq : n.float negative = x

section Layout

variable {c : Nat}

/-- A numeral that starts with the digits of a positive number, or with a part of them. -/
lemma wellFormed_of_digits {n : Numeral} {k : Nat} {more : List Char} (hc : 0 < c) (hk : 0 < k)
    (hwhole : n.whole = (Nat.toDigits 10 c).take k ++ more) (hmore : ∀ x ∈ more, x.isDigit = true)
    (hplaces : ∀ x ∈ n.places, x.isDigit = true) : n.WellFormed := by
  obtain ⟨first, others, hdigits⟩ := List.exists_cons_of_ne_nil (@Nat.toDigits_ne_nil c 10)
  obtain ⟨k, rfl⟩ : ∃ j, k = j + 1 := ⟨k - 1, by omega⟩
  have hhead := head_toDigits hc
  have hall := isDigit_toDigits c
  rw [hdigits] at hwhole hhead hall
  rw [List.take_succ_cons, List.cons_append] at hwhole
  refine ⟨?_, fun x hx => ?_, fun _ => ?_, hplaces⟩
  · rw [hwhole]
    exact List.cons_ne_nil _ _
  · rw [hwhole, ← List.cons_append, List.mem_append] at hx
    rcases hx with hx | hx
    · apply hall
      exact List.mem_of_mem_take (List.take_succ_cons ▸ hx : x ∈ (first :: others).take (k + 1))
    · exact hmore x hx
  · rw [hwhole]
    exact hhead

/-- The digits of a number, cut by a point. -/
lemma value_cut (k : Nat) (power : Option Int) :
    Numeral.value ⟨(Nat.toDigits 10 c).take k, (Nat.toDigits 10 c).drop k, power⟩ =
      c * 10 ^ (power.getD 0 - ((Nat.toDigits 10 c).length - k : Nat)) := by
  unfold Numeral.value
  dsimp only
  rw [List.take_append_drop, natOfDigits_toDigits, List.length_drop]

/-- Digits with zeros after them, and a zero after the point. -/
lemma value_zeros_behind {e : Int} (he : 0 ≤ e) :
    Numeral.value ⟨Nat.toDigits 10 c ++ List.replicate e.toNat '0', ['0'], none⟩ =
      c * 10 ^ e := by
  obtain ⟨k, rfl⟩ := Int.eq_ofNat_of_zero_le he
  have hnumber : natOfDigits (Nat.toDigits 10 c ++ List.replicate k '0' ++ ['0']) =
      c * 10 ^ k * 10 := by
    have hzero : natOfDigits ['0'] = 0 := rfl
    rw [natOfDigits_append, natOfDigits_append, natOfDigits_toDigits, natOfDigits_zeros,
      List.length_replicate, hzero]
    rfl
  unfold Numeral.value
  dsimp only
  rw [Int.toNat_natCast, hnumber]
  push_cast
  norm_num
  ring

/-- Digits with zeros between them and the point. -/
lemma value_zeros_front (k : Nat) :
    Numeral.value ⟨['0'], List.replicate k '0' ++ Nat.toDigits 10 c, none⟩ =
      c * 10 ^ (-((k + (Nat.toDigits 10 c).length : Nat) : Int)) := by
  have hnumber : natOfDigits (['0'] ++ (List.replicate k '0' ++ Nat.toDigits 10 c)) = c := by
    have hzero : natOfDigits ['0'] = 0 := rfl
    rw [natOfDigits_append, natOfDigits_append, natOfDigits_toDigits, natOfDigits_zeros, hzero]
    omega
  unfold Numeral.value
  dsimp only
  rw [hnumber, List.length_append, List.length_replicate, Option.getD_none, zero_sub]

/-- The exponent of a task text has no padding. -/
lemma exponentText_taskText (e : Int) :
    (Decimal.Layout.taskText.exponentText e).toList = powerChars (some e) := by
  have hdigits : (Nat.repr e.natAbs).toList = Nat.toDigits 10 e.natAbs := by
    rw [Nat.repr_eq_ofList_toDigits, String.toList_ofList]
  have hlength : Decimal.Layout.taskText.exponentWidth - (Nat.repr e.natAbs).length = 0 := by
    have hpos : 0 < (Nat.toDigits 10 e.natAbs).length := Nat.length_toDigits_pos
    rw [← String.length_toList, hdigits]
    change 1 - _ = 0
    omega
  unfold Decimal.Layout.exponentText
  dsimp only
  rw [hlength]
  by_cases hsign : e < 0
  · simp [powerChars, hsign, hdigits]
  · simp [powerChars, hsign, hdigits]

/-- Digits with zeros behind them, up to the point. -/
lemma exists_numeral_whole (hc : 0 < c) {e : Int} (he : 0 ≤ e)
    (hshort : (Nat.toDigits 10 c).length + e ≤ 16) :
    ∃ n : Numeral, n.Spells
      (String.ofList (Nat.toDigits 10 c ++ List.replicate e.toNat '0') ++ ".0") (c * 10 ^ e) := by
  refine ⟨⟨Nat.toDigits 10 c ++ List.replicate e.toNat '0', ['0'], none⟩, ?_, rfl, ?_, ?_,
    value_zeros_behind he⟩
  · apply wellFormed_of_digits hc Nat.length_toDigits_pos (by rw [List.take_length])
    · intro x hx
      rw [List.eq_of_mem_replicate hx]
      rfl
    · intro x hx
      rw [List.mem_singleton.mp hx]
      rfl
  · rw [List.length_append, List.length_replicate]
    omega
  · simp [Numeral.chars, placesChars, powerChars]

/-- Digits with a point between two of them. -/
lemma exists_numeral_cut (hc : 0 < c) {k : Nat} (hk : 0 < k)
    (hcut : k < (Nat.toDigits 10 c).length) (hshort : k ≤ 16) :
    ∃ n : Numeral, n.Spells
      (String.ofList ((Nat.toDigits 10 c).take k) ++ "." ++
        String.ofList ((Nat.toDigits 10 c).drop k))
      (c * 10 ^ (-((Nat.toDigits 10 c).length - k : Nat) : Int)) := by
  have hdrop : (Nat.toDigits 10 c).drop k ≠ [] := by
    intro hnil
    rw [List.drop_eq_nil_iff] at hnil
    omega
  refine ⟨⟨(Nat.toDigits 10 c).take k, (Nat.toDigits 10 c).drop k, none⟩, ?_, ?_, ?_, ?_, ?_⟩
  · apply wellFormed_of_digits hc hk (List.append_nil _).symm
    · exact fun x hx => absurd hx List.not_mem_nil
    · exact fun x hx => isDigit_toDigits c x (List.mem_of_mem_drop hx)
  · simp [Numeral.decimal, hdrop]
  · exact (List.length_take_le _ _).trans hshort
  · simp [Numeral.chars, placesChars_of_ne_nil hdrop, powerChars]
  · rw [value_cut, Option.getD_none, zero_sub]

/-- Digits with zeros between them and the point. -/
lemma exists_numeral_small (c k : Nat) :
    ∃ n : Numeral, n.Spells
      ("0." ++ String.ofList (List.replicate k '0' ++ Nat.toDigits 10 c))
      (c * 10 ^ (-((k + (Nat.toDigits 10 c).length : Nat) : Int))) := by
  have hplaces : List.replicate k '0' ++ Nat.toDigits 10 c ≠ [] :=
    List.append_ne_nil_of_right_ne_nil _ Nat.toDigits_ne_nil
  refine ⟨⟨['0'], List.replicate k '0' ++ Nat.toDigits 10 c, none⟩, ?_, ?_, ?_, ?_,
    value_zeros_front k⟩
  · apply wellFormed_of_zero
    intro x hx
    rcases List.mem_append.mp hx with hx | hx
    · rw [List.eq_of_mem_replicate hx]
      rfl
    · exact isDigit_toDigits c x hx
  · simp [Numeral.decimal, hplaces]
  · exact Nat.le_of_ble_eq_true rfl
  · simp [Numeral.chars, placesChars_of_ne_nil hplaces, powerChars]

/-- Digits with an exponent, and with a point behind the first if there are more. -/
lemma exists_numeral_power (hc : 0 < c) (e : Int) :
    ∃ n : Numeral, n.Spells
      (String.ofList ((Nat.toDigits 10 c).take 1) ++
        (if (Nat.toDigits 10 c).length = 1 then ""
          else "." ++ String.ofList ((Nat.toDigits 10 c).drop 1)) ++
        Decimal.Layout.taskText.exponentText e)
      (c * 10 ^ (e - ((Nat.toDigits 10 c).length - 1 : Nat))) := by
  refine ⟨⟨(Nat.toDigits 10 c).take 1, (Nat.toDigits 10 c).drop 1, some e⟩, ?_, ?_, ?_, ?_,
    value_cut 1 (some e)⟩
  · apply wellFormed_of_digits hc Nat.one_pos (List.append_nil _).symm
    · exact fun x hx => absurd hx List.not_mem_nil
    · exact fun x hx => isDigit_toDigits c x (List.mem_of_mem_drop hx)
  · exact Bool.or_true _
  · exact (List.length_take_le _ _).trans (by decide)
  · rw [String.toList_append, String.toList_append, exponentText_taskText]
    unfold Numeral.chars
    rw [String.toList_ofList, List.append_assoc]
    congr 2
    split
    · rename_i hone
      have hdrop : (Nat.toDigits 10 c).drop 1 = [] := List.drop_eq_nil_iff.mpr hone.le
      rw [hdrop]
      rfl
    · rename_i hmore
      have hlength : 0 < (Nat.toDigits 10 c).length := Nat.length_toDigits_pos
      have hdrop : (Nat.toDigits 10 c).drop 1 ≠ [] := by
        intro hnil
        rw [List.drop_eq_nil_iff] at hnil
        omega
      rw [placesChars_of_ne_nil hdrop]
      simp

/-- The layouts of a float are numerals with the value of its digits. -/
lemma exists_numeral {digits : Decimal.Digits} (hpos : 0 < digits.coefficient) :
    ∃ n : Numeral, n.Spells (Decimal.Layout.taskText.write digits) digits.value := by
  obtain ⟨c, e⟩ := digits
  have hlength : 0 < (Nat.toDigits 10 c).length := Nat.length_toDigits_pos
  have hhighest : Decimal.Layout.taskText.highest = 15 := rfl
  unfold Decimal.Layout.write
  dsimp only
  split
  · rename_i hleading
    rw [hhighest] at hleading
    split
    · rename_i he
      exact @exists_numeral_whole c hpos e he (by omega)
    · split
      · rename_i he hfront
        have hexponent : -(((Nat.toDigits 10 c).length -
            ((e + (Nat.toDigits 10 c).length - 1).toNat + 1) : Nat) : Int) = e := by omega
        have hcut := @exists_numeral_cut c hpos
          ((e + (Nat.toDigits 10 c).length - 1).toNat + 1) (Nat.succ_pos _) (by omega) (by omega)
        rw [hexponent] at hcut
        exact hcut
      · rename_i he hfront
        have hexponent : -(((-(e + (Nat.toDigits 10 c).length - 1)).toNat - 1 +
            (Nat.toDigits 10 c).length : Nat) : Int) = e := by omega
        have hsmall := exists_numeral_small c ((-(e + (Nat.toDigits 10 c).length - 1)).toNat - 1)
        rw [hexponent] at hsmall
        exact hsmall
  · have hexponent : e + (Nat.toDigits 10 c).length - 1 -
        ((Nat.toDigits 10 c).length - 1 : Nat) = e := by omega
    have hpower := exists_numeral_power hpos (e + (Nat.toDigits 10 c).length - 1)
    rw [hexponent] at hpower
    exact hpower

end Layout

/-- A float with digits is written by a numeral. -/
lemma exists_writes_of_finite {x : Float} {negative : Bool} {digits : Decimal.Digits}
    (hreading : Decimal.Reading.ofFloat x = .finite negative digits) :
    ∃ n : Numeral, n.Writes negative x := by
  have hpos : 0 < digits.coefficient := Decimal.coefficient_pos_of_finite hreading
  obtain ⟨n, spells⟩ := exists_numeral hpos
  refine ⟨n, spells.wellFormed, spells.decimal, spells.short, ?_,
    Decimal.ofDigits_of_finite hreading spells.value_eq⟩
  unfold Writer.float Decimal.Layout.render
  rw [hreading]
  dsimp only
  rw [String.toList_append, spells.chars_eq]
  cases negative with
  | false => rfl
  | true => rfl

/-- A zero is written by a numeral. -/
lemma exists_writes_of_zero {x : Float} {negative : Bool}
    (hreading : Decimal.Reading.ofFloat x = .zero negative) :
    ∃ n : Numeral, n.Writes negative x := by
  refine ⟨⟨['0'], ['0'], none⟩, ?_, rfl, by decide, ?_, Decimal.ofDigits_of_zero _ hreading⟩
  · apply wellFormed_of_zero
    intro c hc
    rw [List.mem_singleton.mp hc]
    rfl
  · unfold Writer.float Decimal.Layout.render
    rw [hreading]
    cases negative with
    | false => rfl
    | true => rfl

/-- A float that is written by a numeral is read back. -/
lemma number_float {d : Dialect} {n : Numeral} {negative : Bool} {x : Float}
    (writes : n.Writes negative x) {rest : List Char} (hrest : Ends rest) :
    number d (Writer.float x ++ rest) = some (.float x, rest) := by
  have hfits : d.allows negative n.decimal n.whole.length = true := by
    rw [writes.decimal]
    exact allows_decimal negative writes.short
  rw [writes.chars_eq, List.append_assoc, number_chars negative writes.wellFormed,
    magnitude_chars negative writes.wellFormed hrest hfits, writes.decimal, writes.float_eq]
  rfl

end Reader

end Teardown.Json
