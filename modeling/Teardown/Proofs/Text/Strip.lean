import Mathlib.Data.List.DropRight
import Mathlib.Tactic.Lemma
import Teardown.Text.Blank
import Teardown.Text.Word

/-!
# Stripped texts

A stripped text neither begins nor ends with a blank character, and a text without blank characters
is stripped already.  Token characters are not blank, so a text of token characters is its own
stripped form.
-/

namespace Teardown.Text

/-- Stripping drops from the front, and then from the back. -/
lemma trimBoth_eq (p : Char → Bool) (cs : List Char) :
    trimBoth p cs = (cs.dropWhile p).rdropWhile p := rfl

/-- What is left after stripping begins with a character that is kept. -/
lemma head?_trimBoth {p : Char → Bool} {cs : List Char} {c : Char}
    (h : (trimBoth p cs).head? = some c) : p c = false := by
  rw [trimBoth_eq] at h
  obtain ⟨dropped, hsplit⟩ := List.rdropWhile_prefix p (cs.dropWhile p)
  have hhead : (cs.dropWhile p).head? = some c := by
    rw [← hsplit, List.head?_append, h]
    rfl
  have hkept := List.head?_dropWhile_not p cs
  rw [hhead] at hkept
  exact hkept

/-- What is left after stripping ends with a character that is kept. -/
lemma getLast?_trimBoth {p : Char → Bool} {cs : List Char} {c : Char}
    (h : (trimBoth p cs).getLast? = some c) : p c = false := by
  rw [trimBoth_eq] at h
  obtain ⟨hne, hlast⟩ := List.mem_getLast?_eq_getLast (Option.mem_def.mpr h)
  have hkept := List.rdropWhile_last_not p (cs.dropWhile p) hne
  rw [← hlast] at hkept
  exact Bool.eq_false_iff.mpr hkept

/-- Nothing is stripped from characters that are all kept. -/
lemma trimBoth_eq_self {p : Char → Bool} {cs : List Char} (h : ∀ c ∈ cs, p c = false) :
    trimBoth p cs = cs := by
  have hdrop : ∀ ds : List Char, (∀ c ∈ ds, p c = false) → ds.dropWhile p = ds := by
    intro ds hds
    cases ds with
    | nil => rfl
    | cons d ds => exact List.dropWhile_cons_of_neg (Bool.eq_false_iff.mp (hds d List.mem_cons_self))
  have hreverse : ∀ c ∈ cs.reverse, p c = false := fun c hc => h c (List.mem_reverse.mp hc)
  unfold trimBoth
  rw [hdrop cs h, hdrop cs.reverse hreverse, List.reverse_reverse]

/-- What is left after stripping is stripped already. -/
lemma trimBoth_trimBoth (p : Char → Bool) (cs : List Char) :
    trimBoth p (trimBoth p cs) = trimBoth p cs := by
  have hfront : (trimBoth p cs).dropWhile p = trimBoth p cs := by
    cases hhead : trimBoth p cs with
    | nil => rfl
    | cons c rest =>
      have hkept : p c = false := @head?_trimBoth p cs c (by rw [hhead]; rfl)
      exact List.dropWhile_cons_of_neg (Bool.eq_false_iff.mp hkept)
  have hback : (trimBoth p cs).rdropWhile p = trimBoth p cs := by
    rw [trimBoth_eq, List.rdropWhile_idempotent]
  rw [trimBoth_eq p (trimBoth p cs), hfront, hback]

/-! ### Stripped texts -/

/-- A stripped text does not begin with a blank character. -/
lemma head?_strip {s : String} {c : Char} (h : (strip s).toList.head? = some c) :
    isBlank c = false := by
  rw [strip, String.toList_ofList] at h
  exact head?_trimBoth h

/-- A stripped text does not end with a blank character. -/
lemma getLast?_strip {s : String} {c : Char} (h : (strip s).toList.getLast? = some c) :
    isBlank c = false := by
  rw [strip, String.toList_ofList] at h
  exact getLast?_trimBoth h

/-- A text without blank characters is stripped already. -/
lemma strip_eq_self {s : String} (h : ∀ c ∈ s.toList, isBlank c = false) : strip s = s := by
  rw [strip, trimBoth_eq_self h, String.ofList_toList]

/-- A stripped text is stripped already. -/
lemma strip_strip (s : String) : strip (strip s) = strip s := by
  unfold strip
  rw [String.toList_ofList, trimBoth_trimBoth]

/-! ### Token characters -/

/-- The code points of the blank characters. -/
def blanks : List Nat :=
  [0x09, 0x0A, 0x0B, 0x0C, 0x0D, 0x1C, 0x1D, 0x1E, 0x1F, 0x20, 0x85, 0xA0, 0x1680, 0x2000, 0x2001,
    0x2002, 0x2003, 0x2004, 0x2005, 0x2006, 0x2007, 0x2008, 0x2009, 0x200A, 0x2028, 0x2029, 0x202F,
    0x205F, 0x3000]

lemma isBlank_iff {c : Char} : isBlank c = true ↔ c.toNat ∈ blanks := by
  simp only [isBlank, isSpace, blanks, Bool.or_eq_true, Bool.and_eq_true, decide_eq_true_eq,
    beq_iff_eq, List.mem_cons, List.not_mem_nil, or_false]
  omega

/-- A token character is not blank. -/
lemma isBlank_of_isToken {c : Char} (h : isToken c = true) : isBlank c = false := by
  have hblanks : ∀ n ∈ blanks, isToken (Char.ofNat n) = false := by decide +kernel
  by_contra hblank
  have hmem := isBlank_iff.mp (Bool.not_eq_false _ ▸ hblank)
  have hnot := hblanks c.toNat hmem
  rw [Char.ofNat_toNat, h] at hnot
  cases hnot

/-- A text of token characters is stripped already. -/
lemma strip_of_isToken {s : String} (h : ∀ c ∈ s.toList, isToken c = true) : strip s = s :=
  strip_eq_self fun c hc => isBlank_of_isToken (h c hc)

end Teardown.Text
