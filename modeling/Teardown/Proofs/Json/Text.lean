import Mathlib.Tactic.Lemma
import Mathlib.Tactic.SplitIfs
import Teardown.Json.Reader
import Teardown.Json.Writer

/-!
# Written texts are read back

Each character of a text is written by itself, as it stands or by an escape, and the reader takes
exactly these characters for one piece, which it joins to the character again: `pieces_escape`.  By
induction over the characters a whole text is read back: `text_text`.
-/

namespace Teardown.Json

namespace Reader

/-- A control character is written by a unit with its number. -/
lemma unit_hexDigits {n : Nat} (hn : n < 0x20) : ∃ a b c d, Text.hexDigits 4 n = [a, b, c, d] ∧
    unit? a b c d = some n := by
  have hall : ∀ n < 0x20, unit? (Nat.digitChar (n / Nat.pow 16 3 % 16))
      (Nat.digitChar (n / Nat.pow 16 2 % 16)) (Nat.digitChar (n / Nat.pow 16 1 % 16))
      (Nat.digitChar (n / Nat.pow 16 0 % 16)) = some n := by decide
  exact ⟨_, _, _, _, rfl, hall n hn⟩

/-- A unit below the surrogates is joined to the character with its number. -/
lemma join_unit (loneHalves : Bool) {c : Char} (hc : c.toNat < 0x20) (ps : List Piece) :
    join loneHalves (.unit c.toNat :: ps) = (join loneHalves ps).map (c :: ·) := by
  have hhigh : isHighHalf c.toNat = false := by
    unfold isHighHalf
    have hlow : ¬ 0xD800 ≤ c.toNat := by omega
    simp [hlow]
  have hlow : isLowHalf c.toNat = false := by
    unfold isLowHalf
    have hlow : ¬ 0xDC00 ≤ c.toNat := by omega
    simp [hlow]
  conv => lhs; unfold join
  simp [hhigh, hlow, Char.ofNat_toNat]

/-- A character is written by a letter after a backslash, by its number, or as it stands. -/
lemma escape_cases (c : Char) :
    (∃ e, Writer.escape c = ['\\', e] ∧ e ≠ 'u' ∧ escaped? e = some c) ∨
    (c.toNat < 0x20 ∧ Writer.escape c = '\\' :: 'u' :: Text.hexDigits 4 c.toNat) ∨
    (¬ c.toNat < 0x20 ∧ c ≠ '"' ∧ c ≠ '\\' ∧ Writer.escape c = [c]) := by
  unfold Writer.escape
  split_ifs with hquote hbackslash hback hfeed hline hreturn htab hcontrol
  · exact .inl ⟨'"', rfl, by decide, congrArg some hquote.symm⟩
  · exact .inl ⟨'\\', rfl, by decide, congrArg some hbackslash.symm⟩
  · exact .inl ⟨'b', rfl, by decide, congrArg some hback.symm⟩
  · exact .inl ⟨'f', rfl, by decide, congrArg some hfeed.symm⟩
  · exact .inl ⟨'n', rfl, by decide, congrArg some hline.symm⟩
  · exact .inl ⟨'r', rfl, by decide, congrArg some hreturn.symm⟩
  · exact .inl ⟨'t', rfl, by decide, congrArg some htab.symm⟩
  · exact .inr (.inl ⟨hcontrol, rfl⟩)
  · exact .inr (.inr ⟨hcontrol, hquote, hbackslash, rfl⟩)

/-- The reader goes on with the rest after a piece. -/
lemma pieces_bind (p : Piece) (cs : List Char) : (do
      let (ps, rest) ← pieces cs
      return (p :: ps, rest)) = (pieces cs).map fun read => (p :: read.1, read.2) := by
  cases pieces cs with
  | none => rfl
  | some read => rfl

/-- A letter after a backslash is read as the character it stands for. -/
lemma pieces_letter {e c : Char} (he : e ≠ 'u') (hc : escaped? e = some c) (cs : List Char) :
    pieces ('\\' :: e :: cs) = (pieces cs).map fun read => (.char c :: read.1, read.2) := by
  rw [← pieces_bind]
  conv => lhs; unfold pieces
  split
  · rename_i heq
    cases heq
  · rename_i heq
    cases heq
  · rename_i heq
    exact absurd (List.cons.inj (List.cons.inj heq).2).1 he
  · rename_i heq
    cases heq
    rw [hc]
    rfl
  · rename_i hletter heq
    cases heq
    exact (hletter e cs rfl rfl).elim

/-- A number after a backslash is read as a unit. -/
lemma pieces_hexDigits {n : Nat} (hn : n < 0x20) (cs : List Char) :
    pieces ('\\' :: 'u' :: (Text.hexDigits 4 n ++ cs)) =
      (pieces cs).map fun read => (.unit n :: read.1, read.2) := by
  obtain ⟨i, j, k, l, hdigits, hunit⟩ := unit_hexDigits hn
  rw [hdigits, ← pieces_bind]
  change ((unit? i j k l).bind fun n => do
    let (ps, rest) ← pieces cs
    return (Piece.unit n :: ps, rest)) = _
  rw [hunit]
  rfl

/-- A character that needs no escape is read as it stands. -/
lemma pieces_plain {c : Char} (hcontrol : ¬ c.toNat < 0x20) (hquote : c ≠ '"')
    (hbackslash : c ≠ '\\') (cs : List Char) :
    pieces (c :: cs) = (pieces cs).map fun read => (.char c :: read.1, read.2) := by
  rw [← pieces_bind]
  conv => lhs; unfold pieces
  split
  · rename_i heq
    cases heq
  · rename_i heq
    exact absurd (List.cons.inj heq).1 hquote
  · rename_i heq
    exact absurd (List.cons.inj heq).1 hbackslash
  · rename_i heq
    exact absurd (List.cons.inj heq).1 hbackslash
  · rename_i heq
    obtain ⟨rfl, rfl⟩ := List.cons.inj heq
    exact if_neg (not_or.mpr ⟨hcontrol, hbackslash⟩)

/-- A written character is read as one piece, which is joined to this character. -/
lemma pieces_escape (loneHalves : Bool) (c : Char) (cs : List Char) : ∃ p,
    pieces (Writer.escape c ++ cs) = (pieces cs).map (fun read => (p :: read.1, read.2)) ∧
    ∀ ps, join loneHalves (p :: ps) = (join loneHalves ps).map (c :: ·) := by
  rcases escape_cases c with ⟨e, hwritten, he, hc⟩ | ⟨hcontrol, hwritten⟩ |
    ⟨hcontrol, hquote, hbackslash, hwritten⟩
  · rw [hwritten]
    exact ⟨.char c, pieces_letter he hc cs, fun _ => rfl⟩
  · rw [hwritten]
    exact ⟨.unit c.toNat, pieces_hexDigits hcontrol cs, join_unit loneHalves hcontrol⟩
  · rw [hwritten]
    exact ⟨.char c, pieces_plain hcontrol hquote hbackslash cs, fun _ => rfl⟩

/-- The written characters of a text, up to the closing quote, are read back. -/
lemma pieces_flatMap (loneHalves : Bool) (cs rest : List Char) : ∃ ps,
    pieces (cs.flatMap Writer.escape ++ '"' :: rest) = some (ps, rest) ∧
      join loneHalves ps = some cs := by
  induction cs with
  | nil => exact ⟨[], rfl, rfl⟩
  | cons c cs ih =>
    obtain ⟨ps, hread, hjoin⟩ := ih
    obtain ⟨p, hpiece, hchar⟩ := pieces_escape loneHalves c
      (cs.flatMap Writer.escape ++ '"' :: rest)
    refine ⟨p :: ps, ?_, ?_⟩
    · rw [List.flatMap_cons, List.append_assoc, hpiece, hread]
      rfl
    · rw [hchar, hjoin]
      rfl

/-- A written text is read back after its opening quote. -/
theorem text_text (d : Dialect) (s : String) (rest : List Char) :
    Writer.text s ++ rest = '"' :: (s.toList.flatMap Writer.escape ++ '"' :: rest) ∧
      text d (s.toList.flatMap Writer.escape ++ '"' :: rest) = some (s, rest) := by
  obtain ⟨ps, hread, hjoin⟩ := pieces_flatMap d.loneHalves s.toList rest
  constructor
  · unfold Writer.text
    simp
  · unfold text
    rw [hread]
    change ((join d.loneHalves ps).bind fun chars => some (String.ofList chars, rest)) = _
    rw [hjoin, Option.bind_some, String.ofList_toList]

end Reader

end Teardown.Json
