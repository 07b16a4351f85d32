import Tabular.Proofs.TextOrder
import Tabular.Text.Utf8

/-!
# Reading the bytes of a text

The bytes of a text hold its characters, each as one well-formed piece. So the text is read
back from them, whether or not ill-formed pieces are let pass.
-/

set_option autoImplicit false

namespace Tabular.Text.Utf8

variable {i a b c d : Nat} {s : List UInt8}

theorem toNat_byte (h : a < 256) : (UInt8.ofNat a).toNat = a := by
  rw [UInt8.toNat_ofNat', Nat.mod_eq_of_lt h]

theorem byte_lt (h : a < 256) (low : UInt8) : UInt8.ofNat a < low ↔ a < low.toNat := by
  rw [UInt8.lt_iff_toNat_lt, toNat_byte h]

theorem byte_eq (h : a < 256) (other : UInt8) : UInt8.ofNat a = other ↔ a = other.toNat := by
  rw [← UInt8.toNat_inj, toNat_byte h]

theorem between_byte (h : a < 256) (low high : UInt8) :
    between low high (UInt8.ofNat a) = decide (low.toNat ≤ a ∧ a ≤ high.toNat) := by
  simp only [between, UInt8.le_iff_toNat_le, toNat_byte h, Bool.decide_and]

theorem not_single (h : 0x80 ≤ a) (h' : a < 0x100) : ¬UInt8.ofNat a < 0x80 := by
  rw [byte_lt h']
  exact Nat.not_lt_of_le h

theorem outside {low high : UInt8} (h : a < 0x100) (ha : a < low.toNat ∨ high.toNat < a) :
    between low high (UInt8.ofNat a) = false := by
  rw [between_byte h]
  exact decide_eq_false (by omega)

theorem inside {low high : UInt8} (h : a < 0x100) (hlow : low.toNat ≤ a) (hhigh : a ≤ high.toNat) :
    between low high (UInt8.ofNat a) = true := by
  rw [between_byte h]
  exact decide_eq_true ⟨hlow, hhigh⟩

theorem continues_byte (h : 0x80 ≤ a) (h' : a ≤ 0xBF) : continues (UInt8.ofNat a) = true :=
  inside (by omega) h h'

theorem scan_one (h : a < 0x80) :
    scan i (UInt8.ofNat a :: s) = .char (Char.ofNat a) :: scan (i + 1) s := by
  have hone : UInt8.ofNat a < 0x80 := (byte_lt (by omega) _).2 h
  rw [scan.eq_def]
  dsimp only
  rw [if_pos hone, toNat_byte (by omega)]

theorem scan_two (h : 0xC2 ≤ a) (h' : a ≤ 0xDF) (hb : 0x80 ≤ b) (hb' : b ≤ 0xBF) :
    scan i (UInt8.ofNat a :: UInt8.ofNat b :: s) =
      .char (Char.ofNat (64 * (a % 32) + b % 64)) :: scan (i + 2) s := by
  have ha : a < 0x100 := by omega
  have htwo : between 0xC2 0xDF (UInt8.ofNat a) = true := inside ha h h'
  rw [scan.eq_def]
  dsimp only
  rw [if_neg (not_single (by omega) ha), if_pos htwo, if_pos (continues_byte hb hb'), codePoint,
    toNat_byte ha]
  simp only [List.foldl_cons, List.foldl_nil]
  rw [toNat_byte (by omega)]

theorem scan_three (h : 0xE0 ≤ a) (h' : a ≤ 0xEF) (hb : 0x80 ≤ b) (hb' : b ≤ 0xBF)
    (hlow : a = 0xE0 → 0xA0 ≤ b) (hhigh : a = 0xED → b ≤ 0x9F) (hc : 0x80 ≤ c) (hc' : c ≤ 0xBF) :
    scan i (UInt8.ofNat a :: UInt8.ofNat b :: UInt8.ofNat c :: s) =
      .char (Char.ofNat (64 * (64 * (a % 16) + b % 64) + c % 64)) :: scan (i + 3) s := by
  have ha : a < 0x100 := by omega
  have htwo : between 0xC2 0xDF (UInt8.ofNat a) = false :=
    outside ha (.inr (show 0xDF < a by omega))
  have hthree : between 0xE0 0xEF (UInt8.ofNat a) = true := inside ha h h'
  have hsecond : secondOfThree (UInt8.ofNat a) (UInt8.ofNat b) = true := by
    rw [secondOfThree]
    split
    · next heq => exact inside (by omega) (hlow ((byte_eq ha _).1 heq)) hb'
    · split
      · next heq => exact inside (by omega) hb (hhigh ((byte_eq ha _).1 heq))
      · exact continues_byte hb hb'
  rw [scan.eq_def]
  dsimp only
  rw [if_neg (not_single (by omega) ha), htwo, if_neg Bool.false_ne_true, if_pos hthree, hsecond,
    if_neg (by simp), if_pos (continues_byte hc hc'), codePoint, toNat_byte ha]
  simp only [List.foldl_cons, List.foldl_nil]
  rw [toNat_byte (by omega), toNat_byte (by omega)]

theorem scan_four (h : 0xF0 ≤ a) (h' : a ≤ 0xF4) (hb : 0x80 ≤ b) (hb' : b ≤ 0xBF)
    (hlow : a = 0xF0 → 0x90 ≤ b) (hhigh : a = 0xF4 → b ≤ 0x8F) (hc : 0x80 ≤ c) (hc' : c ≤ 0xBF)
    (hd : 0x80 ≤ d) (hd' : d ≤ 0xBF) :
    scan i (UInt8.ofNat a :: UInt8.ofNat b :: UInt8.ofNat c :: UInt8.ofNat d :: s) =
      .char (Char.ofNat (64 * (64 * (64 * (a % 8) + b % 64) + c % 64) + d % 64)) ::
        scan (i + 4) s := by
  have ha : a < 0x100 := by omega
  have htwo : between 0xC2 0xDF (UInt8.ofNat a) = false :=
    outside ha (.inr (show 0xDF < a by omega))
  have hthree : between 0xE0 0xEF (UInt8.ofNat a) = false :=
    outside ha (.inr (show 0xEF < a by omega))
  have hfour : between 0xF0 0xF4 (UInt8.ofNat a) = true := inside ha h h'
  have hsecond : secondOfFour (UInt8.ofNat a) (UInt8.ofNat b) = true := by
    rw [secondOfFour]
    split
    · next heq => exact inside (by omega) (hlow ((byte_eq ha _).1 heq)) hb'
    · split
      · next heq => exact inside (by omega) hb (hhigh ((byte_eq ha _).1 heq))
      · exact continues_byte hb hb'
  rw [scan.eq_def]
  dsimp only
  rw [if_neg (not_single (by omega) ha), htwo, if_neg Bool.false_ne_true, hthree,
    if_neg Bool.false_ne_true, if_pos hfour, hsecond, if_neg (by simp), continues_byte hc hc',
    if_neg (by simp), if_pos (continues_byte hd hd'), codePoint, toNat_byte ha]
  simp only [List.foldl_cons, List.foldl_nil]
  rw [toNat_byte (by omega), toNat_byte (by omega), toNat_byte (by omega)]

/-- The bytes of a character are one well-formed piece, which holds the character. -/
theorem scan_character (i : Nat) (ch : Char) (s : List UInt8) :
    ∃ j, scan i (String.utf8EncodeChar ch ++ s) = .char ch :: scan j s := by
  have hvalid : ch.toNat < 0xD800 ∨ 0xDFFF < ch.toNat ∧ ch.toNat < 0x110000 := ch.valid
  have hback : Char.ofNat ch.toNat = ch := ch.ofNat_toNat
  have hval : ch.val.toNat = ch.toNat := rfl
  rw [String.utf8EncodeChar, hval]
  generalize ch.toNat = v at *
  split
  · exact ⟨i + 1, by rw [List.singleton_append, scan_one (by omega), hback]⟩
  · split
    · refine ⟨i + 2, ?_⟩
      have hnumber : 64 * ((v / 64 % 32 + 192) % 32) + (v % 64 + 128) % 64 = v := by omega
      rw [List.cons_append, List.singleton_append, scan_two (by omega) (by omega) (by omega)
        (by omega), hnumber, hback]
    · split
      · refine ⟨i + 3, ?_⟩
        have hnumber : 64 * (64 * ((v / 4096 % 16 + 224) % 16) + (v / 64 % 64 + 128) % 64) +
            (v % 64 + 128) % 64 = v := by omega
        rw [List.cons_append, List.cons_append, List.singleton_append, scan_three (by omega)
          (by omega) (by omega) (by omega) (by omega) (by omega) (by omega) (by omega), hnumber,
          hback]
      · refine ⟨i + 4, ?_⟩
        have hnumber : 64 * (64 * (64 * ((v / 262144 % 8 + 240) % 8) +
            (v / 4096 % 64 + 128) % 64) + (v / 64 % 64 + 128) % 64) + (v % 64 + 128) % 64 = v := by
          omega
        rw [List.cons_append, List.cons_append, List.cons_append, List.singleton_append,
          scan_four (by omega) (by omega) (by omega) (by omega) (by omega) (by omega) (by omega)
          (by omega) (by omega) (by omega), hnumber, hback]

theorem encode_ofList (cs : List Char) :
    encode (String.ofList cs) = cs.flatMap String.utf8EncodeChar := by
  rw [encode_eq, String.toByteArray_ofList]
  exact List.toList_data_toByteArray

theorem scan_encode (i : Nat) (cs : List Char) :
    scan i (encode (String.ofList cs)) = cs.map .char := by
  rw [encode_ofList]
  induction cs generalizing i with
  | nil => rfl
  | cons ch cs ih =>
    obtain ⟨j, hj⟩ := scan_character i ch (cs.flatMap String.utf8EncodeChar)
    rw [List.flatMap_cons, hj, ih, List.map_cons]

theorem characters_chars (cs : List Char) : characters (cs.map .char) = .ok cs := by
  induction cs with
  | nil => rfl
  | cons ch cs ih =>
    rw [List.map_cons, characters, ih]
    rfl

theorem decode_encode (cs : List Char) :
    decode (encode (String.ofList cs)) = .ok (String.ofList cs) := by
  rw [decode, scan_encode, characters_chars]
  rfl

theorem decodeLossy_encode (cs : List Char) :
    decodeLossy (encode (String.ofList cs)) = String.ofList cs := by
  rw [decodeLossy, scan_encode, List.map_map]
  exact congrArg String.ofList (List.map_id cs)

end Tabular.Text.Utf8
