import Mathlib.Data.List.Infix
import Mathlib.Tactic.Lemma
import Teardown.Github.Title
import Teardown.Proofs.Text.Strip

/-!
# Where a slug stands in a title

`Stands` says that a slug stands in a text as a whole token, with the text on both sides of it, and
`mentions_iff` that a title mentions a slug exactly when the slug stands somewhere in it.

The title of a run is some fixed words and the slug of its instance.  When the fixed words end in a
free character, a slug that stands in the title stands in the words, stands in the other slug, or
reaches from the words into the other slug (`Stands.cases_append`).  A slug of token characters
cannot reach over the free character, so that it is mentioned behind words that do not mention it
only if it is the slug of the title itself (`mentions_append_iff`).
-/

namespace Teardown.Github

/-- A slug stands in a text as a whole token, between `before` and `after`. -/
structure Stands (slug text before after : List Char) : Prop where
  split : text = before ++ (slug ++ after)
  free_before : isFree before.getLast? = true
  free_after : isFree after.head? = true

/-- A slug stands in itself. -/
lemma Stands.self (slug : List Char) : Stands slug slug [] [] :=
  ⟨(List.append_nil _).symm, rfl, rfl⟩

/-- A slug stands here if the rest begins with it and both sides are free. -/
lemma standsHere_iff {slug rest : List Char} {before : Option Char} :
    standsHere slug before rest = true ↔
      isFree before = true ∧ ∃ after, rest = slug ++ after ∧ isFree after.head? = true := by
  unfold standsHere
  rw [Bool.and_eq_true, Bool.and_eq_true, List.isPrefixOf_iff_prefix]
  constructor
  · rintro ⟨⟨hbefore, after, rfl⟩, hafter⟩
    rw [List.drop_left] at hafter
    exact ⟨hbefore, after, rfl, hafter⟩
  · rintro ⟨hbefore, after, rfl, hafter⟩
    rw [List.drop_left]
    exact ⟨⟨hbefore, List.prefix_append _ _⟩, hafter⟩

/-- The search looks at every place: `before` is the character in front of the text. -/
lemma standsIn_iff {slug rest : List Char} {before : Option Char} :
    standsIn slug before rest = true ↔ ∃ front after, rest = front ++ (slug ++ after) ∧
      isFree (front.getLast?.or before) = true ∧ isFree after.head? = true := by
  induction rest generalizing before with
  | nil =>
    rw [standsIn, standsHere_iff]
    constructor
    · rintro ⟨hbefore, after, hrest, hafter⟩
      exact ⟨[], after, hrest, hbefore, hafter⟩
    · rintro ⟨front, after, hrest, hbefore, hafter⟩
      obtain ⟨rfl, hslug⟩ := List.append_eq_nil_iff.mp hrest.symm
      exact ⟨hbefore, after, hslug.symm, hafter⟩
  | cons c rest ih =>
    rw [standsIn, Bool.or_eq_true, standsHere_iff, ih]
    constructor
    · rintro (⟨hbefore, after, hrest, hafter⟩ | ⟨front, after, rfl, hbefore, hafter⟩)
      · exact ⟨[], after, hrest, hbefore, hafter⟩
      · refine ⟨c :: front, after, rfl, ?_, hafter⟩
        rw [List.getLast?_cons]
        cases hlast : front.getLast? with
        | none => simpa [hlast] using hbefore
        | some d => simpa [hlast] using hbefore
    · rintro ⟨front, after, hrest, hbefore, hafter⟩
      cases front with
      | nil => exact .inl ⟨hbefore, after, hrest, hafter⟩
      | cons d front =>
        obtain ⟨rfl, rfl⟩ := List.cons_eq_cons.mp hrest
        refine .inr ⟨front, after, rfl, ?_, hafter⟩
        rw [List.getLast?_cons] at hbefore
        cases hlast : front.getLast? with
        | none => simpa [hlast] using hbefore
        | some d => simpa [hlast] using hbefore

/-- A title mentions a slug if the slug stands somewhere in it. -/
theorem mentions_iff {slug title : String} : mentions slug title = true ↔
    ∃ before after, Stands slug.toList title.toList before after := by
  rw [mentions, standsIn_iff]
  constructor
  · rintro ⟨before, after, hsplit, hbefore, hafter⟩
    rw [Option.or_none] at hbefore
    exact ⟨before, after, hsplit, hbefore, hafter⟩
  · rintro ⟨before, after, hsplit, hbefore, hafter⟩
    refine ⟨before, after, hsplit, ?_, hafter⟩
    rwa [Option.or_none]

/-! ### Fixed words in front of a slug -/

/-- A slug reaches from the words of a title into what follows them. -/
structure Reaches (slug words rest before after : List Char) : Prop where
  reach : ∃ front back, front ≠ [] ∧ back ≠ [] ∧ slug = front ++ back ∧ words = before ++ front ∧
    rest = back ++ after
  free_before : isFree before.getLast? = true
  free_after : isFree after.head? = true

section Append

variable {slug words rest before after : List Char}

/-- Behind words that end in a free character, a slug stands in the words, in what follows them, or
across. -/
lemma Stands.cases_append (h : Stands slug (words ++ rest) before after) :
    (∃ after, Stands slug words before after) ∨ (∃ before, Stands slug rest before after) ∨
      Reaches slug words rest before after := by
  obtain ⟨hsplit, hbefore, hafter⟩ := h
  rcases List.append_eq_append_iff.mp hsplit with ⟨front, rfl, hrest⟩ | ⟨front, rfl, hrest⟩
  · -- The slug begins behind the words.
    refine .inr (.inl ⟨front, hrest, ?_, hafter⟩)
    cases hlast : front.getLast? with
    | none => rfl
    | some c => simpa [List.getLast?_append, hlast] using hbefore
  · rcases List.append_eq_append_iff.mp hrest with ⟨back, rfl, hback⟩ | ⟨back, hslug, hback⟩
    · -- The slug ends in the words.
      refine .inl ⟨back, ⟨rfl, hbefore, ?_⟩⟩
      cases back with
      | nil => rfl
      | cons c back =>
        rw [hback] at hafter
        exact hafter
    · by_cases hfront : front = []
      · subst hfront
        exact .inr (.inl ⟨[], ⟨hrest.symm, rfl, hafter⟩⟩)
      · by_cases hne : back = []
        · subst hne
          refine .inl ⟨[], ⟨?_, hbefore, rfl⟩⟩
          rw [hslug, List.append_nil, List.append_nil]
        · exact .inr (.inr ⟨⟨front, back, hfront, hne, hslug, rfl, hback⟩, hbefore, hafter⟩)

/-- A slug that stands behind the words stands in the whole if the words end in a free character. -/
lemma Stands.append (h : Stands slug rest before after) (hwords : isFree words.getLast? = true) :
    Stands slug (words ++ rest) (words ++ before) after := by
  obtain ⟨rfl, hbefore, hafter⟩ := h
  refine ⟨(List.append_assoc ..).symm, ?_, hafter⟩
  rw [List.getLast?_append]
  cases hlast : before.getLast? with
  | none => exact hwords
  | some c => rwa [hlast] at hbefore

end Append

/-! ### Slugs of token characters -/

/-- No token character is free. -/
lemma isFree_some {c : Char} (h : isFree (some c) = true) : Text.isToken c = false :=
  (Bool.not_eq_true' _).mp h

/-- Among token characters, only the end of the text is free on the left. -/
lemma eq_nil_of_isFree_getLast? {cs : List Char} (htokens : ∀ c ∈ cs, Text.isToken c = true)
    (hfree : isFree cs.getLast? = true) : cs = [] := by
  by_contra hne
  rw [List.getLast?_eq_some_getLast hne] at hfree
  have htoken := htokens (cs.getLast hne) (List.getLast_mem hne)
  rw [isFree_some hfree] at htoken
  cases htoken

/-- Among token characters, only the end of the text is free on the right. -/
lemma eq_nil_of_isFree_head? {cs : List Char} (htokens : ∀ c ∈ cs, Text.isToken c = true)
    (hfree : isFree cs.head? = true) : cs = [] := by
  cases cs with
  | nil => rfl
  | cons c cs =>
    have htoken := htokens c List.mem_cons_self
    rw [isFree_some hfree] at htoken
    cases htoken

/-- In a text of token characters stands only the text itself. -/
lemma Stands.eq_of_isToken {slug text before after : List Char}
    (h : Stands slug text before after) (htext : ∀ c ∈ text, Text.isToken c = true) :
    slug = text := by
  obtain ⟨rfl, hbefore, hafter⟩ := h
  have hnil : before = [] := by
    refine eq_nil_of_isFree_getLast? (fun c hc => htext c ?_) hbefore
    exact List.mem_append_left _ hc
  have hnil' : after = [] := by
    refine eq_nil_of_isFree_head? (fun c hc => htext c ?_) hafter
    exact List.mem_append_right _ (List.mem_append_right _ hc)
  rw [hnil, hnil', List.append_nil, List.nil_append]

/-- A slug of token characters reaches over no free character. -/
lemma Reaches.not_isToken {slug words rest before after : List Char}
    (h : Reaches slug words rest before after) (hwords : isFree words.getLast? = true) :
    ∃ c ∈ slug, Text.isToken c = false := by
  obtain ⟨⟨front, back, hfront, _, rfl, rfl, _⟩, _, _⟩ := h
  rw [List.getLast?_append_of_ne_nil _ hfront, List.getLast?_eq_some_getLast hfront] at hwords
  exact ⟨front.getLast hfront, List.mem_append_left _ (List.getLast_mem hfront), isFree_some hwords⟩

/-- Behind words that end in a free character and do not mention a slug of token characters, the
slug is mentioned only where it is the whole of what follows. -/
theorem mentions_append_iff {words slug other : String}
    (hwords : isFree words.toList.getLast? = true) (hsilent : mentions slug words = false)
    (hslug : ∀ c ∈ slug.toList, Text.isToken c = true)
    (hother : ∀ c ∈ other.toList, Text.isToken c = true) :
    mentions slug (words ++ other) = true ↔ slug = other := by
  rw [mentions_iff, String.toList_append]
  constructor
  · rintro ⟨before, after, hstands⟩
    rcases hstands.cases_append with ⟨after, hinside⟩ | ⟨before, hbehind⟩ | hreaches
    · rw [mentions_iff.mpr ⟨before, after, hinside⟩] at hsilent
      cases hsilent
    · exact String.toList_injective (hbehind.eq_of_isToken hother)
    · obtain ⟨c, hc, hfree⟩ := hreaches.not_isToken hwords
      rw [hslug c hc] at hfree
      cases hfree
  · rintro rfl
    exact ⟨_, _, (Stands.self slug.toList).append hwords⟩

end Teardown.Github
