import Mathlib.Tactic.Lemma
import Teardown.Proofs.Github.Title

/-!
# The tokens of a title

The tokens of a text are its maximal runs of token characters: a run begins at the first token
character, goes on to the first character that is none, and the search for runs continues there.

A run stands in the text as a whole token, and a text of token characters that stands in it as a
whole token is a run (`mem_runs_iff`): it can neither begin nor end inside of a run, since both of
its sides are free.  With this the search for a slug of token characters is a look-up among the
tokens of the title (`mentions_iff_token`).
-/

namespace Teardown.Github

/-- The maximal runs of token characters, in their order. -/
def runs : List Char → List (List Char)
  | [] => []
  | c :: cs =>
    if Text.isToken c then (c :: cs.takeWhile Text.isToken) :: runs (cs.dropWhile Text.isToken)
    else runs cs
termination_by cs => cs.length
decreasing_by
  · exact Nat.lt_succ_of_le (List.dropWhile_suffix _).length_le
  · exact Nat.lt_succ_self _

/-- The tokens of a text. -/
def tokens (s : String) : List String :=
  (runs s.toList).map String.ofList

section Runs

variable {slug text before after : List Char}

/-- What follows a run begins with a free character. -/
lemma isFree_head?_dropWhile (cs : List Char) :
    isFree (cs.dropWhile Text.isToken).head? = true := by
  have hkept := List.head?_dropWhile_not Text.isToken cs
  cases hhead : (cs.dropWhile Text.isToken).head? with
  | none => rfl
  | some c =>
    rw [hhead] at hkept
    exact (Bool.not_eq_true' _).mpr hkept

/-- Token characters before a free side are all that is taken while there are token characters. -/
lemma takeWhile_isToken_append (hslug : ∀ c ∈ slug, Text.isToken c = true)
    (hafter : isFree after.head? = true) : (slug ++ after).takeWhile Text.isToken = slug := by
  rw [List.takeWhile_append_of_pos hslug]
  cases after with
  | nil => rw [List.takeWhile_nil, List.append_nil]
  | cons c after =>
    have hfree := Bool.not_eq_true _ ▸ isFree_some hafter
    rw [List.takeWhile_cons_of_neg hfree, List.append_nil]

/-- A text of token characters does not begin with a free character. -/
lemma not_isFree_head? (hslug : ∀ c ∈ slug, Text.isToken c = true) (hne : slug ≠ []) :
    isFree (slug ++ after).head? = false := by
  obtain ⟨c, cs, rfl⟩ := List.exists_cons_of_ne_nil hne
  exact (Bool.not_eq_false' _).mpr (hslug c List.mem_cons_self)

/-- Behind a free character, the same token characters stand in the text. -/
lemma exists_stands_cons_iff {c : Char} {cs : List Char}
    (hslug : ∀ d ∈ slug, Text.isToken d = true) (hne : slug ≠ []) (hc : Text.isToken c = false) :
    (∃ before after, Stands slug (c :: cs) before after) ↔
      ∃ before after, Stands slug cs before after := by
  have hfree : isFree (some c) = true := (Bool.not_eq_true' _).mpr hc
  constructor
  · rintro ⟨before, after, hsplit, hbefore, hafter⟩
    cases before with
    | nil =>
      have hhead : isFree (slug ++ after).head? = false := not_isFree_head? hslug hne
      rw [← List.nil_append (slug ++ after), ← hsplit] at hhead
      exact absurd hhead (Bool.not_eq_false _ ▸ hfree)
    | cons d before =>
      obtain ⟨rfl, hrest⟩ := List.cons_eq_cons.mp hsplit
      refine ⟨before, after, hrest, ?_, hafter⟩
      cases hlast : before.getLast? with
      | none => rfl
      | some e => simpa [List.getLast?_cons, hlast] using hbefore
  · rintro ⟨before, after, hstands⟩
    have hwords : isFree [c].getLast? = true := hfree
    exact ⟨[c] ++ before, after, hstands.append hwords⟩

/-- After a run, token characters stand in the text if they are the run or stand in the rest. -/
lemma exists_stands_append_iff {run rest : List Char}
    (hslug : ∀ c ∈ slug, Text.isToken c = true) (hne : slug ≠ [])
    (hrun : ∀ c ∈ run, Text.isToken c = true) (hrest : isFree rest.head? = true) :
    (∃ before after, Stands slug (run ++ rest) before after) ↔
      slug = run ∨ ∃ before after, Stands slug rest before after := by
  constructor
  · rintro ⟨before, after, hsplit, hbefore, hafter⟩
    rcases List.append_eq_append_iff.mp hsplit with ⟨front, rfl, hfront⟩ | ⟨back, rfl, hback⟩
    · refine .inr ⟨front, after, hfront, ?_, hafter⟩
      cases hlast : front.getLast? with
      | none => rfl
      | some c => simpa [List.getLast?_append, hlast] using hbefore
    · -- A place inside of the run has a token character in front, unless it is the first.
      have hnil : before = [] :=
        eq_nil_of_isFree_getLast? (fun c hc => hrun c (List.mem_append_left _ hc)) hbefore
      subst hnil
      refine .inl ?_
      calc slug
        _ = (slug ++ after).takeWhile Text.isToken := (takeWhile_isToken_append hslug hafter).symm
        _ = (back ++ rest).takeWhile Text.isToken := by rw [hback]
        _ = back := takeWhile_isToken_append hrun hrest
  · rintro (rfl | ⟨before, after, rfl, hbefore, hafter⟩)
    · exact ⟨[], rest, rfl, rfl, hrest⟩
    · have hfront : before ≠ [] := by
        rintro rfl
        rw [List.nil_append, not_isFree_head? hslug hne] at hrest
        cases hrest
      refine ⟨run ++ before, after, (List.append_assoc ..).symm, ?_, hafter⟩
      rwa [List.getLast?_append_of_ne_nil _ hfront]

/-- The runs are the texts of token characters that stand in the text as whole tokens. -/
theorem mem_runs_iff : slug ∈ runs text ↔ slug ≠ [] ∧ (∀ c ∈ slug, Text.isToken c = true) ∧
    ∃ before after, Stands slug text before after := by
  fun_induction runs text with
  | case1 =>
    refine ⟨fun h => absurd h List.not_mem_nil, ?_⟩
    rintro ⟨hne, _, before, after, hsplit, _, _⟩
    obtain ⟨_, hnil⟩ := List.append_eq_nil_iff.mp hsplit.symm
    exact absurd (List.append_eq_nil_iff.mp hnil).1 hne
  | case2 c cs htoken ih =>
    have hrun : ∀ d ∈ c :: cs.takeWhile Text.isToken, Text.isToken d = true := by
      intro d hd
      rcases List.mem_cons.mp hd with rfl | hmem
      · exact htoken
      · exact List.mem_takeWhile_imp hmem
    have hrest := isFree_head?_dropWhile cs
    have htext : c :: cs = (c :: cs.takeWhile Text.isToken) ++ cs.dropWhile Text.isToken := by
      rw [List.cons_append, List.takeWhile_append_dropWhile]
    rw [List.mem_cons, ih, htext]
    constructor
    · rintro (rfl | ⟨hne, hslug, hstands⟩)
      · exact ⟨List.cons_ne_nil _ _, hrun, [], _, rfl, rfl, hrest⟩
      · exact ⟨hne, hslug, (exists_stands_append_iff hslug hne hrun hrest).mpr (.inr hstands)⟩
    · rintro ⟨hne, hslug, hstands⟩
      refine ((exists_stands_append_iff hslug hne hrun hrest).mp hstands).imp_right ?_
      exact fun hstands => ⟨hne, hslug, hstands⟩
  | case3 c cs htoken ih =>
    rw [ih]
    refine and_congr_right fun hne => and_congr_right fun hslug => ?_
    exact (exists_stands_cons_iff hslug hne (Bool.not_eq_true _ ▸ htoken)).symm

end Runs

/-! ### The search -/

/-- A text that is empty or ends in a character that is no token character. -/
def FreeEnd (s : String) : Prop :=
  s = "" ∨ ∃ c, s.toList.getLast? = some c ∧ Text.isToken c = false

/-- A text that is empty or begins with a character that is no token character. -/
def FreeStart (s : String) : Prop :=
  s = "" ∨ ∃ c, s.toList.head? = some c ∧ Text.isToken c = false

/-- A side without a character, or with a free one. -/
lemma isFree_iff {side : Option Char} :
    isFree side = true ↔ side = none ∨ ∃ c, side = some c ∧ Text.isToken c = false := by
  cases side with
  | none => simp [isFree]
  | some c => simp [isFree]

lemma freeEnd_iff {s : String} : FreeEnd s ↔ isFree s.toList.getLast? = true := by
  rw [isFree_iff, List.getLast?_eq_none_iff, String.toList_eq_nil_iff]
  rfl

lemma freeStart_iff {s : String} : FreeStart s ↔ isFree s.toList.head? = true := by
  rw [isFree_iff, List.head?_eq_none_iff, String.toList_eq_nil_iff]
  rfl

/-- A slug is a token of a title if its characters are a run of the title. -/
lemma mem_tokens_iff {slug title : String} :
    slug ∈ tokens title ↔ slug.toList ∈ runs title.toList := by
  unfold tokens
  constructor
  · intro h
    obtain ⟨run, hrun, rfl⟩ := List.mem_map.mp h
    rwa [String.toList_ofList]
  · intro h
    exact List.mem_map.mpr ⟨slug.toList, h, String.ofList_toList⟩

/-- A title mentions a slug exactly if the slug occurs in it with free sides, whatever the
characters of the slug are and whatever other occurrences there are; a slug of token characters is
mentioned exactly if it is a token of the title; and every slug is mentioned behind `cleanup`. -/
theorem mentions_iff_token (slug title : String) :
    (mentions slug title = true ↔ ∃ before after : String,
      title = before ++ slug ++ after ∧ FreeEnd before ∧ FreeStart after) ∧
    (slug ≠ "" → (∀ c ∈ slug.toList, Text.isToken c = true) →
      (mentions slug title = true ↔ slug ∈ tokens title)) ∧
    mentions slug ("cleanup " ++ slug) = true := by
  refine ⟨?_, fun hne hslug => ?_, ?_⟩
  · rw [mentions_iff]
    constructor
    · rintro ⟨before, after, hsplit, hbefore, hafter⟩
      refine ⟨String.ofList before, String.ofList after, ?_, ?_, ?_⟩
      · refine String.toList_injective ?_
        simp only [String.toList_append, String.toList_ofList, hsplit, List.append_assoc]
      · rwa [freeEnd_iff, String.toList_ofList]
      · rwa [freeStart_iff, String.toList_ofList]
    · rintro ⟨before, after, rfl, hbefore, hafter⟩
      refine ⟨before.toList, after.toList, ?_, freeEnd_iff.mp hbefore, freeStart_iff.mp hafter⟩
      rw [String.toList_append, String.toList_append, List.append_assoc]
  · have hnil : slug.toList ≠ [] := fun h => hne (String.toList_eq_nil_iff.mp h)
    rw [mentions_iff, mem_tokens_iff, mem_runs_iff]
    exact ⟨fun hstands => ⟨hnil, hslug, hstands⟩, fun h => h.2.2⟩
  · rw [mentions_iff, String.toList_append]
    exact ⟨_, _, (Stands.self slug.toList).append (by decide)⟩

/-- The first occurrence of `demo` is followed by a token character; the second is a token. -/
theorem demo_token : "demo" ≠ "" ∧ (∀ c ∈ "demo".toList, Text.isToken c = true) ∧
    mentions "demo" "demo-2, demo" = true ∧ "demo" ∈ tokens "demo-2, demo" := by
  have hne : "demo" ≠ "" := by decide
  have hslug : ∀ c ∈ "demo".toList, Text.isToken c = true := List.all_eq_true.mp (by decide)
  have hmentions : mentions "demo" "demo-2, demo" = true := by decide +kernel
  exact ⟨hne, hslug, hmentions,
    ((mentions_iff_token "demo" "demo-2, demo").2.1 hne hslug).mp hmentions⟩

end Teardown.Github
