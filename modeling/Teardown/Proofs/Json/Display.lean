import Mathlib.Tactic.Lemma
import Teardown.Json.Display
import Teardown.Proofs.Text.Strip

/-!
# How values are displayed

The display form of a value that is no text begins with one of few characters: the constants with a
capital, lists and objects with a bracket or a brace, numbers with a digit, a minus sign, or the
first letter of `inf` or `nan`.  None of them is blank, so that the first character is left after
stripping.  A word that begins with any other character is therefore displayed by a text only
(`strip_display_eq_iff`).
-/

namespace Teardown

/-! ### Numbers -/

namespace Decimal

/-- The digits of a number begin with a digit. -/
lemma exists_toDigits (n : Nat) : ∃ c cs, Nat.toDigits 10 n = c :: cs ∧ c.isDigit = true := by
  obtain ⟨c, cs, h⟩ := List.exists_cons_of_ne_nil (Nat.toDigits_ne_nil (b := 10) (n := n))
  have hmem : c ∈ Nat.toDigits 10 n := h ▸ List.mem_cons_self
  exact ⟨c, cs, h, Nat.isDigit_of_mem_toDigits (by decide) (by decide) hmem⟩

/-- In every layout a positive number begins with a digit. -/
lemma Layout.exists_write (layout : Layout) (digits : Digits) :
    ∃ c cs, (layout.write digits).toList = c :: cs ∧ c.isDigit = true := by
  obtain ⟨c, cs, hdigits, hc⟩ := exists_toDigits digits.coefficient
  unfold Layout.write
  rw [hdigits]
  dsimp only
  split
  · split
    · exact ⟨c, _, by simp only [String.toList_append, String.toList_ofList]; rfl, hc⟩
    · split
      · exact ⟨c, _, by simp only [String.toList_append, String.toList_ofList]; rfl, hc⟩
      · exact ⟨'0', _, by simp only [String.toList_append, String.toList_ofList]; rfl, rfl⟩
  · exact ⟨c, _, by simp only [String.toList_append, String.toList_ofList]; rfl, hc⟩

end Decimal

namespace Json

/-! ### First characters -/

/-- A character with which the display form of a value that is no text may begin. -/
def Leads (c : Char) : Prop :=
  c.isDigit = true ∨ c ∈ ['N', 'T', 'F', 'i', 'n', '-', '[', '\x7b']

instance (c : Char) : Decidable (Leads c) :=
  inferInstanceAs (Decidable (_ ∨ _))

/-- The text begins with a character that leads a display form. -/
def Led (s : String) : Prop :=
  ∃ c cs, s.toList = c :: cs ∧ Leads c

/-- A text that begins with another character is not led. -/
lemma not_led {s : String} {c : Char} {cs : List Char} (hs : s.toList = c :: cs) (hc : ¬ Leads c) :
    ¬ Led s := by
  rintro ⟨d, ds, hd, hlead⟩
  obtain ⟨rfl, _⟩ := List.cons_eq_cons.mp (hd.symm.trans hs)
  exact hc hlead

/-- A text that goes on is led as before. -/
lemma Led.append {s : String} (h : Led s) (t : String) : Led (s ++ t) := by
  obtain ⟨c, cs, hs, hc⟩ := h
  exact ⟨c, cs ++ t.toList, by rw [String.toList_append, hs, List.cons_append], hc⟩

/-- A text that begins with a given leading character. -/
lemma led_append {s : String} (t : String) {c : Char} {cs : List Char} (hs : s.toList = c :: cs)
    (hc : c ∈ ['N', 'T', 'F', 'i', 'n', '-', '[', '\x7b']) : Led (s ++ t) :=
  Led.append ⟨c, cs, hs, .inr hc⟩ t

/-- The digits of a number lead it. -/
lemma led_repr (n : Nat) : Led (Nat.repr n) := by
  obtain ⟨c, cs, hdigits, hc⟩ := Decimal.exists_toDigits n
  exact ⟨c, cs, by rw [Nat.repr, String.toList_ofList, hdigits], .inl hc⟩

lemma led_int (n : Int) : Led (toString n) := by
  cases n with
  | ofNat n => exact led_repr n
  | negSucc n => exact led_append (s := "-") (Nat.repr (n + 1)) rfl (by decide)

lemma led_float (x : Float) : Led (Decimal.display x) := by
  unfold Decimal.display Decimal.Layout.render
  split
  · exact ⟨_, _, rfl, .inr (by decide)⟩
  · split
    · exact ⟨_, _, rfl, .inr (by decide)⟩
    · exact ⟨_, _, rfl, .inr (by decide)⟩
  · split
    · exact ⟨_, _, rfl, .inr (by decide)⟩
    · exact ⟨_, _, rfl, .inl rfl⟩
  · rename_i negative digits _
    cases negative with
    | true => exact led_append _ rfl (by decide)
    | false =>
      obtain ⟨c, cs, hwrite, hc⟩ := Decimal.Layout.display.exists_write digits
      exact ⟨c, cs, by simpa using hwrite, .inl hc⟩

/-- Every value that is no text is displayed with a leading character in front. -/
lemma led_display {v : Json} (h : ∀ s, v ≠ .str s) : Led v.display := by
  cases v with
  | null => exact ⟨_, _, rfl, .inr (by decide)⟩
  | bool b =>
    cases b with
    | true => exact ⟨_, _, rfl, .inr (by decide)⟩
    | false => exact ⟨_, _, rfl, .inr (by decide)⟩
  | int n => exact led_int n
  | float x => exact led_float x
  | str s => exact absurd rfl (h s)
  | arr items =>
    cases items with
    | nil => exact ⟨_, _, rfl, .inr (by decide)⟩
    | cons v vs =>
      have hdisplay : (arr (v :: vs)).display = "[" ++ (Display.nested v ++ Display.items vs) :=
        String.append_assoc ..
      rw [hdisplay]
      exact led_append _ rfl (by decide)
  | obj members =>
    cases members with
    | nil => exact ⟨_, _, rfl, .inr (by decide)⟩
    | cons pair rest =>
      obtain ⟨key, v⟩ := pair
      have hdisplay : (obj ((key, v) :: rest)).display =
          "\x7b" ++ (Text.quoted key ++ (": " ++ (Display.nested v ++ Display.members rest))) := by
        simp only [display, Display.nested, String.append_assoc]
      rw [hdisplay]
      exact led_append _ rfl (by decide)

/-! ### Stripped display forms -/

/-- No leading character is blank. -/
lemma Leads.isBlank_eq_false {c : Char} (h : Leads c) : Text.isBlank c = false := by
  rcases h with hdigit | hmem
  · refine Text.isBlank_of_isToken ?_
    have halpha : c.isAlphanum = true := by simp [Char.isAlphanum, hdigit]
    have hlow : c.toNat < 128 := by
      have hlast : c.toNat ≤ 57 := (Char.isDigit_iff_toNat.mp hdigit).2
      omega
    simp [Text.isToken, Text.isWord, hlow, halpha]
  · have hall : ['N', 'T', 'F', 'i', 'n', '-', '[', '\x7b'].all (!Text.isBlank ·) = true := by
      decide
    exact (Bool.not_eq_true' _).mp (List.all_eq_true.mp hall c hmem)

/-- Stripping leaves a text led as it is. -/
lemma Led.strip {s : String} (h : Led s) : Led (Text.strip s) := by
  obtain ⟨c, cs, hs, hc⟩ := h
  have hkept : ¬ Text.isBlank c = true := Bool.not_eq_true _ ▸ hc.isBlank_eq_false
  have hne : (c :: cs).rdropWhile Text.isBlank ≠ [] := fun hnil =>
    hkept (List.rdropWhile_eq_nil_iff.mp hnil c List.mem_cons_self)
  rcases List.prefix_cons_iff.mp (List.rdropWhile_prefix Text.isBlank (c :: cs)) with
    hnil | ⟨rest, hrest, _⟩
  · exact absurd hnil hne
  · refine ⟨c, rest, ?_, hc⟩
    rw [Text.strip, String.toList_ofList, Text.trimBoth_eq, hs, List.dropWhile_cons_of_neg hkept,
      hrest]

/-- A word that begins with no leading character is displayed by texts only. -/
lemma strip_display_eq_iff {word : String} (hword : ¬ Led word) {v : Json} :
    Text.strip v.display = word ↔ ∃ s, v = .str s ∧ Text.strip s = word := by
  constructor
  · intro h
    cases v with
    | str s => exact ⟨s, rfl, h⟩
    | _ => exact absurd (h ▸ (led_display fun s hs => Json.noConfusion hs).strip) hword
  · rintro ⟨s, rfl, h⟩
    exact h

end Json

end Teardown
