import RoadRegistry.Json.Parser
import RoadRegistry.Json.Printer

namespace RoadRegistry.Json

theorem unit?_control : ∀ n < 0x20,
    unit? '0' '0' (Nat.digitChar (n / 16)) (Nat.digitChar (n % 16)) = some n := by
  decide

theorem readString_escapeChar (c : Char) (rest : List Char) :
    readString (escapeChar c ++ rest) =
      (readString rest).map fun (read, rest) => (c :: read, rest) := by
  unfold escapeChar
  iterate 7
    split
    · subst_vars
      rfl
  split
  · next control =>
    have unit := unit?_control c.toNat control
    have low : ¬ (0xD800 ≤ c.toNat ∧ c.toNat ≤ 0xDBFF) := by omega
    have not_low : ¬ (0xDC00 ≤ c.toNat ∧ c.toNat ≤ 0xDFFF) := by omega
    simp only [List.cons_append, List.nil_append, readString, unit, if_neg low, if_neg not_low,
      Char.ofNat_toNat]
  · next quote backslash _ _ _ _ _ printable =>
    rw [List.singleton_append, readString.eq_def]
    split
    · contradiction
    · next same => cases same; contradiction
    · next same => cases same; contradiction
    · next same => cases same; contradiction
    · next same =>
      cases same
      rw [if_neg (by simp only [printable, backslash, or_self, not_false_eq_true])]

theorem readString_write (s : String) (rest : List Char) :
    readString (s.toList.flatMap escapeChar ++ '"' :: rest) = some (s.toList, rest) := by
  induction s.toList with
  | nil => rfl
  | cons c later ih =>
    rw [List.flatMap_cons, List.append_assoc, readString_escapeChar, ih]
    rfl

end RoadRegistry.Json
