import Tabular.Sql.Value

/-!
# The order of texts

Texts are compared by their bytes, of which each text has its own.
-/

set_option autoImplicit false

namespace Tabular

namespace Text.Utf8

theorem toList_loop (bs : ByteArray) (i : Nat) (acc : List UInt8) :
    ByteArray.toList.loop bs i acc = acc.reverse ++ bs.data.toList.drop i := by
  induction i, acc using ByteArray.toList.loop.induct bs with
  | case1 i acc h ih =>
    have hlt : i < bs.data.toList.length := h
    have hnext : bs.data.toList.drop i = bs.get! i :: bs.data.toList.drop (i + 1) := by
      rw [List.drop_eq_getElem_cons hlt]
      congr 1
      exact (getElem!_pos bs.data i h).symm
    rw [ByteArray.toList.loop, if_pos h, ih, hnext, List.reverse_cons, List.append_assoc]
    rfl
  | case2 i acc h =>
    have hle : bs.data.toList.length ≤ i := Nat.le_of_not_lt h
    rw [ByteArray.toList.loop, if_neg h, List.drop_eq_nil_of_le hle, List.append_nil]

theorem encode_eq (s : String) : encode s = s.toByteArray.data.toList :=
  toList_loop s.toByteArray 0 []

theorem encode_inj {s t : String} : encode s = encode t ↔ s = t := by
  rw [encode_eq, encode_eq, Array.toList_inj, ← ByteArray.ext_iff, String.toByteArray_inj]

end Text.Utf8

namespace Sql

theorem compareBytes_eq {as bs : List UInt8} : compareBytes as bs = .eq ↔ as = bs := by
  induction as generalizing bs with
  | nil => cases bs <;> simp [compareBytes]
  | cons a as ih =>
    cases bs with
    | nil => simp [compareBytes]
    | cons b bs =>
      rw [compareBytes, List.cons.injEq, ← ih]
      split
      · next h => simp [UInt8.ne_of_lt h]
      · next hab =>
        split
        · next h => simp [(UInt8.ne_of_lt h).symm]
        · next hba => simp [UInt8.le_antisymm (UInt8.not_lt.1 hba) (UInt8.not_lt.1 hab)]

/-- Bytes are compared one by one, and a beginning comes before the whole. -/
theorem compareBytes_ne_gt {as bs : List UInt8} : compareBytes as bs ≠ .gt ↔ as ≤ bs := by
  induction as generalizing bs with
  | nil => cases bs <;> simp [compareBytes]
  | cons a as ih =>
    cases bs with
    | nil => simp [compareBytes]
    | cons b bs =>
      rw [compareBytes, List.cons_le_cons_iff, ← ih]
      split
      · next h => simp [h]
      · next hab =>
        split
        · next h => simp [hab, (UInt8.ne_of_lt h).symm]
        · next hba => simp [UInt8.le_antisymm (UInt8.not_lt.1 hba) (UInt8.not_lt.1 hab)]

namespace Value

theorem compare_text (s t : String) :
    compare .binary (.text s) (.text t) =
      compareBytes (Text.Utf8.encode s) (Text.Utf8.encode t) := rfl

theorem compare_text_eq {s t : String} : compare .binary (.text s) (.text t) = .eq ↔ s = t := by
  rw [compare_text, compareBytes_eq, Text.Utf8.encode_inj]

end Value
end Sql
end Tabular
