import Mathlib.Algebra.Group.Nat.Defs

/-!
# The bytes of a text

The bytes of a text in UTF-8. A character has a first byte, which tells how many
others follow, and each of these has six of its bits. Where two characters
differ, so do their bytes, and the first byte that differs is less for the lesser
character. So texts are in the order of their bytes.

* `FirstByte.lt_or_eq`: what the first bytes of two characters tell.
* `charBytes_append_lt`: the lesser character has the lesser bytes, whatever follows.
* `lt_iff_bytes_lt`: the order of texts is the order of their bytes.
-/

namespace Rulebook.Text

/-- The bytes of a text in UTF-8. -/
def bytes (t : String) : List UInt8 :=
  t.toUTF8.data.toList

theorem bytes_eq_flatMap (t : String) : bytes t = t.toList.flatMap String.utf8EncodeChar := by
  rw [bytes, String.toUTF8, ← String.utf8Encode_toList, List.utf8Encode]
  exact List.toList_data_toByteArray

/-! ## Characters -/

/-- The last `k` digits of `n` to the base 64, each in a byte of its own. -/
def lastBytes : Nat → Nat → List UInt8
  | 0, _ => []
  | k + 1, n => UInt8.ofNat (n / 64 ^ k % 64 + 128) :: lastBytes k n

/-- The first byte of the character of number `n`, with the number `k` of bytes that follow it. -/
inductive FirstByte (n : Nat) : (k first : Nat) → Prop
  | ofOne : n ≤ 127 → FirstByte n 0 n
  | ofTwo : 127 < n → n ≤ 2047 → FirstByte n 1 (n / 64 + 192)
  | ofThree : 2047 < n → n ≤ 65535 → FirstByte n 2 (n / 4096 + 224)
  | ofFour : 65535 < n → n ≤ 1114111 → FirstByte n 3 (n / 262144 + 240)

theorem toNat_val_le (c : Char) : c.val.toNat ≤ 1114111 := by
  have hvalid := c.valid
  rw [UInt32.isValidChar, Nat.isValidChar] at hvalid
  omega

/-- A character has a first byte, and the bytes that follow it. -/
theorem exists_firstByte (c : Char) :
    ∃ k first, FirstByte c.val.toNat k first ∧
      String.utf8EncodeChar c = UInt8.ofNat first :: lastBytes k c.val.toNat := by
  have hle := toNat_val_le c
  rw [String.utf8EncodeChar]
  generalize c.val.toNat = n at hle
  split
  · exact ⟨0, n, .ofOne ‹_›, rfl⟩
  split
  · refine ⟨1, _, .ofTwo (by omega) ‹_›, ?_⟩
    rw [Nat.mod_eq_of_lt (by omega : n / 64 < 32)]
    simp [lastBytes]
  split
  · refine ⟨2, _, .ofThree (by omega) ‹_›, ?_⟩
    rw [Nat.mod_eq_of_lt (by omega : n / 4096 < 16)]
    simp [lastBytes]
  · refine ⟨3, _, .ofFour (by omega) hle, ?_⟩
    rw [Nat.mod_eq_of_lt (by omega : n / 262144 < 8)]
    simp [lastBytes]

variable {m n j k a b : Nat}

theorem FirstByte.lt_size (h : FirstByte n k a) : a < 256 := by
  cases h <;> omega

/-- The lesser character has the lesser first byte, or both have the same one: then the bytes that
follow tell them apart. -/
theorem FirstByte.lt_or_eq (hm : FirstByte m j a) (hn : FirstByte n k b) (h : m < n) :
    a < b ∨ a = b ∧ j = k ∧ m / 64 ^ k = n / 64 ^ k := by
  cases hm <;> cases hn <;> omega

/-- Of two numbers that differ in no digit but the last `k`, the lesser one has the lesser bytes. -/
theorem lastBytes_append_lt (h : m < n) (hk : m / 64 ^ k = n / 64 ^ k) (l r : List UInt8) :
    lastBytes k m ++ l < lastBytes k n ++ r := by
  induction k with
  | zero => omega
  | succ k ih =>
    have hle : m / 64 ^ k ≤ n / 64 ^ k := Nat.div_le_div_right (Nat.le_of_lt h)
    rw [Nat.pow_succ, ← Nat.div_div_eq_div_mul, ← Nat.div_div_eq_div_mul] at hk
    rw [lastBytes, lastBytes, List.cons_append, List.cons_append, List.cons_lt_cons_iff]
    rcases Nat.lt_or_eq_of_le hle with hlt | heq
    · have hbyte (i : Nat) : i % 64 + 128 < UInt8.size := by
        have := Nat.mod_lt i (by decide : 64 > 0)
        rw [UInt8.size]
        omega
      exact .inl ((UInt8.ofNat_lt_iff_lt (hbyte _) (hbyte _)).2 (by omega))
    · exact .inr ⟨by rw [heq], ih heq⟩

/-- The lesser character has the lesser bytes, whatever follows it. -/
theorem charBytes_append_lt {c d : Char} (h : c < d) (l r : List UInt8) :
    String.utf8EncodeChar c ++ l < String.utf8EncodeChar d ++ r := by
  obtain ⟨j, a, ha, hc⟩ := exists_firstByte c
  obtain ⟨k, b, hb, hd⟩ := exists_firstByte d
  have hlt : c.val.toNat < d.val.toNat := h
  rw [hc, hd, List.cons_append, List.cons_append, List.cons_lt_cons_iff]
  rcases ha.lt_or_eq hb hlt with hfirst | ⟨rfl, rfl, hrest⟩
  · exact .inl ((UInt8.ofNat_lt_iff_lt ha.lt_size hb.lt_size).2 hfirst)
  · exact .inr ⟨rfl, lastBytes_append_lt hlt hrest l r⟩

/-! ## Texts -/

theorem flatMap_charBytes_lt {cs ds : List Char} (h : cs < ds) :
    cs.flatMap String.utf8EncodeChar < ds.flatMap String.utf8EncodeChar := by
  induction h with
  | @nil d ds =>
    obtain ⟨k, first, -, hd⟩ := exists_firstByte d
    rw [List.flatMap_cons, hd]
    exact .nil
  | rel hlt => exact charBytes_append_lt hlt _ _
  | cons _ ih => exact List.append_left_lt ih

theorem bytes_lt_of_lt {s t : String} (h : s < t) : bytes s < bytes t := by
  rw [bytes_eq_flatMap, bytes_eq_flatMap]
  exact flatMap_charBytes_lt (String.lt_iff.1 h)

/-- The order of texts is the order of their bytes. -/
theorem lt_iff_bytes_lt {s t : String} : s < t ↔ bytes s < bytes t := by
  refine ⟨bytes_lt_of_lt, fun h => Decidable.byContradiction fun hnot => ?_⟩
  rcases Decidable.em (s = t) with rfl | hne
  · exact List.lt_irrefl _ h
  · have hle := String.not_lt.1 hnot
    have hlt : t < s := String.not_le.1 fun hle' => hne (String.le_antisymm hle' hle)
    exact List.lt_asymm h (bytes_lt_of_lt hlt)

/-- The order of UTF-16 is not this one: the letter, which takes two units there, would come before
the ligature. -/
example : "ﬁ" < "𝑓" ∧ bytes "ﬁ" = [239, 172, 129] ∧ bytes "𝑓" = [240, 157, 145, 147] := by
  decide +kernel

end Rulebook.Text
