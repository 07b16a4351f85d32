import Mathlib
import Tabular.Proofs.BoundRuns
import Tabular.Proofs.NumberReading
import Tabular.Proofs.Trimming

/-!
# Whole numbers as values

A text is a whole number if it is a sign or none and digits behind it, white space around them
aside. As a parameter it is bound as just this number if 64 bits hold it, and if it is none, or
too great or too small, the statement is refused before it runs.
-/

set_option autoImplicit false

namespace Tabular

namespace Decimal

inductive Numeral : List Char → Int → Prop
  | plain {ds : List Char} (some : ds ≠ []) (digits : ∀ c ∈ ds, isDigit c = true) :
      Numeral ds (natOf 0 ds)
  | plus {ds : List Char} (some : ds ≠ []) (digits : ∀ c ∈ ds, isDigit c = true) :
      Numeral ('+' :: ds) (natOf 0 ds)
  | minus {ds : List Char} (some : ds ≠ []) (digits : ∀ c ∈ ds, isDigit c = true) :
      Numeral ('-' :: ds) (-(natOf 0 ds : Int))

def Fits (i : Int) : Prop := -2 ^ 63 ≤ i ∧ i ≤ 2 ^ 63 - 1

instance (i : Int) : Decidable (Fits i) :=
  inferInstanceAs (Decidable (-2 ^ 63 ≤ i ∧ i ≤ 2 ^ 63 - 1))

variable {most acc n : Nat} {passed : WholeFault} {ds s : List Char} {low high i : Int}

theorem digit?_eq_some {c : Char} {d : Nat} :
    digit? c = some d ↔ isDigit c = true ∧ d = c.toNat - 48 := by
  rw [isDigit, digit?]
  split
  · simp [eq_comm]
  · simp

/-- Characters are read as a magnitude just if they are digits of one within the bound. -/
theorem wholeDigits_ok (hacc : acc ≤ most) :
    wholeDigits most passed acc ds = .ok n ↔
      (∀ c ∈ ds, isDigit c = true) ∧ natOf acc ds = n ∧ n ≤ most := by
  constructor
  · intro h
    induction ds generalizing acc with
    | nil =>
      obtain rfl := Except.ok.inj h
      exact ⟨nofun, rfl, hacc⟩
    | cons c ds ih =>
      rw [wholeDigits] at h
      cases hc : digit? c with
      | none =>
        rw [hc] at h
        cases h
      | some d =>
        obtain ⟨hdigit, rfl⟩ := digit?_eq_some.1 hc
        simp only [hc] at h
        split at h
        · cases h
        · next hle =>
          obtain ⟨hds, hvalue, hn⟩ := ih (Nat.le_of_not_lt hle) h
          exact ⟨List.forall_mem_cons.2 ⟨hdigit, hds⟩, hvalue, hn⟩
  · rintro ⟨hds, rfl, hn⟩
    exact wholeDigits_eq passed hds hn

theorem whole_unsigned {c : Char} (hplus : c ≠ '+') (hminus : c ≠ '-') :
    whole low high (c :: ds) = (wholeDigits high.toNat .tooLarge 0 (c :: ds)).map Int.ofNat := by
  rw [whole]
  · intro h
    cases h
  · intro ds h
    exact hplus (List.cons.inj h).1
  · intro ds h
    exact hminus (List.cons.inj h).1

/-- Digits without a minus sign, read as a number that is not below zero. -/
theorem magnitude_ok (hhigh : 0 ≤ high) :
    (wholeDigits high.toNat passed 0 ds).map Int.ofNat = .ok i ↔
      (∀ c ∈ ds, isDigit c = true) ∧ (natOf 0 ds : Int) = i ∧ i ≤ high := by
  constructor
  · intro h
    obtain ⟨n, hn, rfl⟩ := map_eq_ok.1 h
    obtain ⟨hds, rfl, hle⟩ := (wholeDigits_ok (Nat.zero_le _)).1 hn
    exact ⟨hds, rfl, by rw [Int.ofNat_eq_natCast]; omega⟩
  · rintro ⟨hds, rfl, hle⟩
    rw [wholeDigits_eq passed hds (by omega)]
    rfl

theorem numeral_of_whole (hlow : low < 0) (hhigh : 0 ≤ high) (h : whole low high s = .ok i) :
    Numeral s i ∧ low ≤ i ∧ i ≤ high := by
  cases s with
  | nil => cases h
  | cons c ds =>
    by_cases hplus : c = '+'
    · subst hplus
      rw [whole] at h
      split at h
      · cases h
      · next hsome =>
        obtain ⟨hds, rfl, hle⟩ := (magnitude_ok hhigh).1 h
        exact ⟨.plus hsome hds, by omega, hle⟩
    by_cases hminus : c = '-'
    · subst hminus
      rw [whole] at h
      split at h
      · cases h
      · next hsome =>
        obtain ⟨i, hi, rfl⟩ := map_eq_ok.1 h
        obtain ⟨n, hn, hcast⟩ := bind_eq_ok.1 hi
        obtain rfl := Except.ok.inj hcast
        obtain ⟨hds, rfl, hle⟩ := (wholeDigits_ok (Nat.zero_le _)).1 hn
        exact ⟨.minus (fun hnil => hsome (.inr hnil)) hds, by omega, by omega⟩
    · rw [whole_unsigned hplus hminus] at h
      obtain ⟨hds, rfl, hle⟩ := (magnitude_ok hhigh).1 h
      exact ⟨.plain (List.cons_ne_nil c ds) hds, by omega, hle⟩

theorem whole_of_numeral (hlow : low < 0) (hhigh : 0 ≤ high) (hs : Numeral s i) (hl : low ≤ i)
    (hh : i ≤ high) : whole low high s = .ok i := by
  cases hs with
  | plain hsome digits =>
    cases s with
    | nil => exact absurd rfl hsome
    | cons c ds =>
      have hc := digits c List.mem_cons_self
      have hplus : c ≠ '+' := by rintro rfl; cases hc
      have hminus : c ≠ '-' := by rintro rfl; cases hc
      rw [whole_unsigned hplus hminus]
      exact (magnitude_ok hhigh).2 ⟨digits, rfl, hh⟩
  | plus hsome digits =>
    rw [whole, if_neg hsome]
    exact (magnitude_ok hhigh).2 ⟨digits, rfl, hh⟩
  | minus hsome digits =>
    rw [whole, if_neg (by simp [hsome]; omega), wholeDigits_eq .tooSmall digits (by omega)]
    rfl

/-- A text is read as a whole number just if it is the numeral of one within the bounds. -/
theorem whole_ok (hlow : low < 0) (hhigh : 0 ≤ high) :
    whole low high s = .ok i ↔ Numeral s i ∧ low ≤ i ∧ i ≤ high :=
  ⟨numeral_of_whole hlow hhigh, fun ⟨hs, hl, hh⟩ => whole_of_numeral hlow hhigh hs hl hh⟩

theorem Numeral.unique {j : Int} (h : Numeral s i) (h' : Numeral s j) : i = j := by
  -- between bounds that are far enough both are what the text is read as
  have hbounds : ∃ low high : Int, low < 0 ∧ 0 ≤ high ∧ (low ≤ i ∧ i ≤ high) ∧
      low ≤ j ∧ j ≤ high := ⟨min (-1) (min i j), max 0 (max i j), by omega⟩
  obtain ⟨low, high, hlow, hhigh, hi, hj⟩ := hbounds
  have hread := (whole_ok hlow hhigh).2 ⟨h, hi⟩
  rw [(whole_ok hlow hhigh).2 ⟨h', hj⟩] at hread
  exact (Except.ok.inj hread).symm

theorem Numeral.nonneg (h : Numeral s i) (hs : s.head? ≠ some '-') : 0 ≤ i := by
  cases h with
  | plain | plus => exact Int.natCast_nonneg _
  | minus => exact absurd rfl hs

theorem Numeral.unsigned (h : Numeral s i) (hi : 0 < i) : s.head? ≠ some '-' := by
  rintro hs
  obtain ⟨ds, rfl⟩ := List.head?_eq_some_iff.1 hs
  cases h with
  | plain _ digits => cases digits '-' List.mem_cons_self
  | minus => omega

/-- Where nothing is below zero a minus sign is not read. -/
theorem whole_zero_ok (hhigh : 0 ≤ high) :
    whole 0 high s = .ok i ↔ Numeral s i ∧ s.head? ≠ some '-' ∧ i ≤ high := by
  by_cases hs : s.head? = some '-'
  · obtain ⟨ds, rfl⟩ := List.head?_eq_some_iff.1 hs
    rw [whole, if_pos (.inl (Int.le_refl 0))]
    simp
  · have hlow : whole 0 high s = whole (-1) high s := by
      cases s with
      | nil => rfl
      | cons c ds =>
        by_cases hplus : c = '+'
        · subst hplus
          rw [whole, whole]
        · have hminus : c ≠ '-' := fun hc => hs (congrArg some hc)
          rw [whole_unsigned hplus hminus, whole_unsigned hplus hminus]
    rw [hlow, whole_ok (by decide) hhigh]
    constructor
    · rintro ⟨hi, -, hle⟩
      exact ⟨hi, hs, hle⟩
    · rintro ⟨hi, -, hle⟩
      have hnonneg := hi.nonneg hs
      exact ⟨hi, by omega, hle⟩

theorem numeral_intText (i : Int) : Numeral (intText i) i := by
  have hlow : min (-1) i < 0 := by omega
  have hhigh : 0 ≤ max 0 i := by omega
  have hread := whole_intText hlow (by omega : min (-1) i ≤ i) (by omega : i ≤ max 0 i)
  exact ((whole_ok hlow hhigh).1 hread).1

theorem fits_toInt (v : Int64) : Fits v.toInt := by
  have hleast := v.le_toInt
  have hmost := v.toInt_lt
  rw [Fits]
  omega

theorem Fits.toInt_ofInt (h : Fits i) : (Int64.ofInt i).toInt = i := by
  rw [Fits] at h
  exact Int64.toInt_ofInt_of_le (by omega) (by omega)

theorem word64?_eq_some {v : Int64} : word64? s = some v ↔ Numeral s v.toInt := by
  have hlow : leastInt < 0 := by decide
  have hhigh : 0 ≤ mostInt := by decide
  have hv : leastInt ≤ v.toInt ∧ v.toInt ≤ mostInt := fits_toInt v
  rw [word64?]
  cases hread : whole leastInt mostInt s with
  | ok i =>
    obtain ⟨hs, hi⟩ := (whole_ok hlow hhigh).1 hread
    have hfits : Fits i := hi
    have htoInt := hfits.toInt_ofInt
    constructor
    · intro h
      obtain rfl := Option.some.inj h
      rwa [htoInt]
    · intro h
      obtain rfl := h.unique hs
      exact congrArg some v.ofInt_toInt
  | error e =>
    constructor
    · intro h
      cases h
    · intro h
      rw [(whole_ok hlow hhigh).2 ⟨h, hv⟩] at hread
      cases hread

end Decimal

namespace Store

open Sql (Prepared)

variable {s : Store} {statement : Statement} {k : Nat} {text : String} {type : ColumnType}

structure Reaches (s : Store) (statement : Statement) (k : Nat) : Prop where
  counted : ∃ ps, s.verdict statement.sql = .ok ps ∧ Agree statement ps
  earlier : ∀ j < k, ∀ p, statement.typed[j]? = some p → (convert p.2 p.1).isSome

/-- No run complains of the value at a place, and where the values are bound this one is bound
as just the number. A text of one statement whose parameters have no names is executed with it
for the parameter of that place. -/
structure Binds (statement : Statement) (k : Nat) (i : Int) : Prop where
  accepted : ∀ (s : Store) text type, (s.run statement).1 ≠ .error (.invalidValue k text type)
  bound : ∀ ps values, bindings ps statement = .ok values →
    ∃ v : Int64, values[k]? = some (.int v) ∧ v.toInt = i
  executed : ∀ (s : Store) p n values, s.verdict statement.sql = .ok [p] →
    p.parameters = ⟨n, []⟩ → bindings [p] statement = .ok values →
    ∃ v : Int64, values[k]? = some (.int v) ∧ v.toInt = i ∧
      (s.run statement).1 = s.ofOutcome p (s.connection.run s.patience values p.instruction) ∧
      (s.run statement).2.connection = (s.connection.run s.patience values p.instruction).1

def Refuses (statement : Statement) (k : Nat) (text : String) : Prop :=
  ∀ s : Store, s.Reaches statement k →
    (s.run statement).1 = .error (.invalidValue k text .integer) ∧
      (s.run statement).2.connection = s.connection

theorem Fails.unread {stage : Stage}
    (h : s.Fails statement stage (.invalidValue k text type)) :
    FirstUnread statement.typed k text type := by
  generalize he : AccessError.invalidValue k text type = e at h
  cases h with
  | prepare | execution =>
    rw [timedOut] at he
    split at he <;> cases he
  | arity => cases he
  | value first =>
    obtain ⟨rfl, rfl, rfl⟩ := AccessError.invalidValue.inj he
    exact first

theorem Converted.getElem? {typed : List (String × ColumnType)} {values : List Sql.Value}
    (h : Converted typed values) {p : String × ColumnType} (hp : typed[k]? = some p) :
    ∃ v, values[k]? = some v ∧ convert p.2 p.1 = some v := by
  induction h generalizing k with
  | nil => cases hp
  | @cons q v _ _ first _ ih =>
    cases k with
    | zero =>
      obtain rfl := Option.some.inj hp
      exact ⟨v, rfl, first⟩
    | succ k => exact ih hp

theorem bound_of_convert {v : Sql.Value} (h : statement.typed[k]? = some (text, type))
    (hv : convert type text = some v) {ps : List Prepared} {values : List Sql.Value}
    (hvalues : bindings ps statement = .ok values) : values[k]? = some v := by
  obtain ⟨w, hw, hconvert⟩ := (converted_of_bindings hvalues).getElem? h
  rwa [Option.some.inj (hv.symm.trans hconvert)]

theorem binds_of_convert {v : Int64} (h : statement.typed[k]? = some (text, type))
    (hv : convert type text = some (.int v)) : Binds statement k v.toInt where
  accepted s text' type' hrun := by
    obtain ⟨stage, hfirst⟩ := (run_error_iff s statement _).1 hrun
    have hunread := hfirst.here.unread
    obtain ⟨rfl, rfl⟩ := Prod.mk.inj (Option.some.inj (h.symm.trans hunread.here))
    rw [hunread.unread] at hv
    cases hv
  bound ps values hvalues := ⟨v, bound_of_convert h hv hvalues, rfl⟩
  executed s p n values hverdict hparameters hvalues :=
    ⟨v, bound_of_convert h hv hvalues, rfl, run_single hverdict hparameters hvalues⟩

theorem refuses_of_unread (h : statement.typed[k]? = some (text, .integer))
    (hnone : convert .integer text = none) : Refuses statement k text := by
  intro s hs
  obtain ⟨ps, hverdict, hagree⟩ := hs.counted
  have hunread : FirstUnread statement.typed k text .integer := ⟨h, hnone, hs.earlier⟩
  have hfirst := first_value hverdict hagree hunread
  exact ⟨(run_error_iff s statement _).2 ⟨_, hfirst⟩, run_untouched hfirst nofun⟩

/-- A text that is bound as a whole number is bound as just the number that it writes. -/
theorem convert_integer {v : Sql.Value} :
    convert .integer text = some v ↔
      ∃ i, Decimal.Numeral (Text.trim text.toList) i ∧ Decimal.Fits i ∧
        ∃ w : Int64, v = .int w ∧ w.toInt = i := by
  rw [convert, Option.map_eq_some_iff]
  constructor
  · rintro ⟨w, hw, rfl⟩
    exact ⟨w.toInt, Decimal.word64?_eq_some.1 hw, Decimal.fits_toInt w, w, rfl, rfl⟩
  · rintro ⟨_, hs, -, w, rfl, rfl⟩
    exact ⟨w, Decimal.word64?_eq_some.2 hs, rfl⟩

theorem binds_numeral {i : Int} (h : statement.typed[k]? = some (text, .integer))
    (hi : Decimal.Numeral (Text.trim text.toList) i) (hfits : Decimal.Fits i) :
    Binds statement k i := by
  have hv : convert .integer text = some (.int (Int64.ofInt i)) :=
    convert_integer.2 ⟨i, hi, hfits, _, rfl, hfits.toInt_ofInt⟩
  have hbinds := binds_of_convert h hv
  rwa [hfits.toInt_ofInt] at hbinds

theorem refuses_other (h : statement.typed[k]? = some (text, .integer))
    (hother : ∀ i, Decimal.Numeral (Text.trim text.toList) i → ¬Decimal.Fits i) :
    Refuses statement k text := by
  apply refuses_of_unread h
  rw [Option.eq_none_iff_forall_ne_some]
  intro v hv
  obtain ⟨i, hi, hfits, -⟩ := convert_integer.1 hv
  exact hother i hi hfits

/-- The text of a number is bound as the number, or refused if it is too great. -/
theorem binds_showInt {i : Int} (h : statement.typed[k]? = some (Decimal.showInt i, .integer)) :
    (Decimal.Fits i → Binds statement k i) ∧
      (¬Decimal.Fits i → Refuses statement k (Decimal.showInt i)) := by
  have htrim : Text.trim (Decimal.showInt i).toList = Decimal.intText i := by
    rw [Decimal.showInt, String.toList_ofList, trim_intText]
  have hnumeral := Decimal.numeral_intText i
  constructor
  · apply binds_numeral h
    rwa [htrim]
  · intro hwide
    apply refuses_other h
    intro j hj
    rw [htrim] at hj
    rwa [hj.unique hnumeral]

end Store
end Tabular
