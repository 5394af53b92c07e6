import Mathlib.Data.String.Basic
import Mathlib.Tactic.Lemma

/-!
# Splitting a text at a character

The library splits a text by moving positions of bytes.  At a separator of one character this is the
splitting of the list of its characters (`splitOn_singleton`), about which there are lemmas.
-/

namespace Teardown.Text

open String

variable (c : Char)

/-- A text of one character has this character at its start. -/
lemma get_singleton : Pos.Raw.get (singleton c) 0 = c := by
  rw [singleton_eq_ofList]
  exact get_of_valid [] [c]

/-- Behind its one character a text is at its end. -/
lemma next_singleton : Pos.Raw.next (singleton c) 0 = ⟨c.utf8Size⟩ := by
  rw [singleton_eq_ofList]
  simpa using next_of_valid [] c []

lemma atEnd_singleton : Pos.Raw.atEnd (singleton c) ⟨c.utf8Size⟩ = true := by
  rw [singleton_eq_ofList]
  simpa using atEnd_of_valid [c] []

/-- The piece between two positions. -/
lemma extract_piece (l m r : List Char) :
    Pos.Raw.extract (ofList (l ++ m ++ r)) ⟨utf8Len l⟩ ⟨utf8Len (l ++ m)⟩ = ofList m := by
  rw [utf8Len_append]
  exact extract_of_valid l m r

/-- The loop of the splitting with the piece `m` begun behind `l`, and `r` still to be read. -/
lemma splitOnAux_singleton (l m r : List Char) (pieces : List String) :
    (ofList (l ++ m ++ r)).splitOnAux (singleton c) ⟨utf8Len l⟩ ⟨utf8Len (l ++ m)⟩ 0 pieces =
      pieces.reverse ++ (List.splitOnPPrepend (· == c) r m.reverse).map ofList := by
  induction r generalizing l m pieces with
  | nil =>
    have hend : Pos.Raw.atEnd (ofList (l ++ m ++ [])) ⟨utf8Len (l ++ m)⟩ = true :=
      (atEnd_of_valid (l ++ m) []).mpr rfl
    rw [splitOnAux.eq_1, if_pos hend, extract_piece]
    simp
  | cons d r ih =>
    have hend : ¬ Pos.Raw.atEnd (ofList (l ++ m ++ d :: r)) ⟨utf8Len (l ++ m)⟩ = true :=
      fun h => List.cons_ne_nil d r ((atEnd_of_valid (l ++ m) (d :: r)).mp h)
    have hget : Pos.Raw.get (ofList (l ++ m ++ d :: r)) ⟨utf8Len (l ++ m)⟩ = d :=
      get_of_valid (l ++ m) (d :: r)
    have hnext : Pos.Raw.next (ofList (l ++ m ++ d :: r)) ⟨utf8Len (l ++ m)⟩ =
        ⟨utf8Len (l ++ m) + d.utf8Size⟩ := next_of_valid (l ++ m) d r
    have hread : l ++ m ++ d :: r = l ++ m ++ [d] ++ r := by simp
    have hlength : utf8Len (l ++ m) + d.utf8Size = utf8Len (l ++ m ++ [d]) := by
      simp [Nat.add_assoc]
    rw [splitOnAux.eq_1, if_neg hend, hget, get_singleton]
    by_cases hd : d = c
    · -- The piece ends here, and the next one begins empty behind the separator.
      subst hd
      have hback : Pos.Raw.unoffsetBy ⟨utf8Len (l ++ m) + d.utf8Size⟩ ⟨d.utf8Size⟩ =
          ⟨utf8Len (l ++ m)⟩ := by
        simp [Pos.Raw.unoffsetBy]
      have hrest := ih (l ++ m ++ [d]) [] (ofList m :: pieces)
      rw [List.append_nil] at hrest
      rw [if_pos (beq_self_eq_true d), hnext, next_singleton]
      dsimp only
      rw [if_pos (atEnd_singleton d), hback, extract_piece, hread, hlength, hrest,
        List.splitOnPPrepend_cons_pos (p := (· == d)) (beq_self_eq_true d),
        List.splitOnP_eq_splitOnPPrepend]
      simp
    · have hrest := ih l (m ++ [d]) pieces
      rw [← List.append_assoc] at hrest
      rw [if_neg (by simpa using hd), Pos.Raw.unoffsetBy_zero, hnext, hread, hlength, hrest,
        List.splitOnPPrepend_cons_neg (by simpa using hd)]
      simp

/-- Splitting a text at a character is splitting the list of its characters. -/
lemma splitOn_singleton (s : String) :
    s.splitOn (singleton c) = (s.toList.splitOn c).map ofList := by
  have hloop := splitOnAux_singleton c [] [] s.toList []
  rw [List.nil_append, List.nil_append, ofList_toList] at hloop
  have hone : (singleton c == "") = false := by
    simp
  unfold splitOn
  rw [hone, List.splitOn_eq_splitOnP, List.splitOnP_eq_splitOnPPrepend]
  exact hloop

end Teardown.Text
