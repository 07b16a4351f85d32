import Tabular.Proofs.RequestRuns

/-!
# Numbers as values

The number of a row is written in digits, perhaps behind a sign, and read as what it was.
-/

set_option autoImplicit false

namespace Tabular

namespace Decimal

variable {most acc n : Nat} {ds : List Char}

theorem le_natOf (acc : Nat) (ds : List Char) : acc ≤ natOf acc ds := by
  induction ds generalizing acc with
  | nil => exact Nat.le_refl acc
  | cons c ds ih =>
    have hstep := ih (10 * acc + (c.toNat - 48))
    simp only [natOf, List.foldl_cons] at hstep ⊢
    omega

theorem natOf_natText (n : Nat) : natOf 0 (natText n) = n :=
  Nat.ofDigitChars_toDigits (by decide) (by decide)

/-- Digits of a magnitude within the bound are all taken. -/
theorem wholeDigits_eq (passed : WholeFault) (hd : ∀ c ∈ ds, isDigit c)
    (h : natOf acc ds ≤ most) :
    wholeDigits most passed acc ds = .ok (natOf acc ds) := by
  induction ds generalizing acc with
  | nil => rfl
  | cons c ds ih =>
    obtain ⟨hc, hds⟩ := List.forall_mem_cons.1 hd
    have hdigit : digit? c = some (c.toNat - 48) := by
      rw [isDigit, digit?] at hc
      rw [digit?]
      split at hc
      · rename_i hbetween
        rw [if_pos hbetween]
      · cases hc
    have hle : ¬most < 10 * acc + (c.toNat - 48) :=
      Nat.not_lt.2 (Nat.le_trans (le_natOf _ ds) h)
    rw [wholeDigits]
    simp only [hdigit, hle, if_false]
    exact ih hds h

theorem natText_cons (n : Nat) :
    ∃ c cs, natText n = c :: cs ∧ isDigit c ∧ ∀ d ∈ c :: cs, isDigit d := by
  have hdigits : ∀ d ∈ natText n, isDigit d := by
    simpa [showNat] using Statement.isDigit_showNat n
  cases hn : natText n with
  | nil => exact absurd hn Nat.toDigits_ne_nil
  | cons c cs =>
    rw [hn] at hdigits
    exact ⟨c, cs, rfl, hdigits c (List.mem_cons_self ..), hdigits⟩

theorem mem_intText {i : Int} {c : Char} (h : c ∈ intText i) : c = '-' ∨ isDigit c := by
  obtain ⟨d, ds, htext, -, hdigits⟩ := natText_cons i.natAbs
  rw [intText, htext] at h
  split at h
  · exact (List.mem_cons.1 h).imp_right (hdigits c)
  · exact .inr (hdigits c h)

theorem whole_intText {low high i : Int} (hlow : low < 0) (hl : low ≤ i) (hh : i ≤ high) :
    whole low high (intText i) = .ok i := by
  obtain ⟨c, cs, htext, hc, hdigits⟩ := natText_cons i.natAbs
  have hvalue := natOf_natText i.natAbs
  rw [htext] at hvalue
  by_cases hi : i < 0
  · have hread := wholeDigits_eq .tooSmall hdigits
      (by rw [hvalue]; omega : _ ≤ low.natAbs)
    rw [hvalue] at hread
    have habs : -(i.natAbs : Int) = i := by omega
    rw [intText, if_pos hi, htext, whole, if_neg (by simp; omega), hread]
    exact congrArg Except.ok habs
  · have hread := wholeDigits_eq .tooLarge hdigits
      (by rw [hvalue]; omega : _ ≤ high.toNat)
    rw [hvalue] at hread
    have habs : (i.natAbs : Int) = i := by omega
    have hplus : c ≠ '+' := by rintro rfl; cases hc
    have hminus : c ≠ '-' := by rintro rfl; cases hc
    rw [intText, if_neg hi, htext, whole]
    · rw [hread]
      exact congrArg Except.ok habs
    · simp
    · intro ds h
      exact hplus (List.cons.inj h).1
    · intro ds h
      exact hminus (List.cons.inj h).1

end Decimal

/-- Nothing of a number is blank. -/
theorem trim_intText (i : Int) : Text.trim (Decimal.intText i) = Decimal.intText i := by
  obtain ⟨c, cs, htext, -⟩ := Decimal.natText_cons i.natAbs
  have hink : ∀ d ∈ Decimal.intText i, Text.isBlank d = false := by
    intro d hd
    rcases Decimal.mem_intText hd with rfl | hdigit
    · rfl
    · have hbetween : '0' ≤ d ∧ d ≤ '9' := by
        simpa [Decimal.isDigit, Decimal.digit?] using hdigit
      exact blank_of_plain (by simp [Identifier.isDigit, hbetween])
  have hne : Decimal.intText i ≠ [] := by
    rw [Decimal.intText, htext]
    split <;> simp
  have hstrip := strip_append (p := Text.isBlank) hne
    (fun d hd => hink d (List.mem_of_mem_head? hd))
    (fun d hd => hink d (List.mem_of_mem_getLast? hd)) (List.forall_mem_nil _)
  rw [List.append_nil] at hstrip
  exact hstrip

/-- The number of a row is bound as itself. -/
theorem Store.convert_toString (id : Int64) :
    Store.convert .integer (toString id.toInt) = some (.int id) := by
  have hread : Decimal.whole Decimal.leastInt Decimal.mostInt (Decimal.intText id.toInt) =
      .ok id.toInt :=
    Decimal.whole_intText (by decide) id.le_toInt id.toInt_le
  rw [Store.convert, ← Decimal.showInt_eq_toString, Decimal.showInt, String.toList_ofList,
    trim_intText, Decimal.word64?, hread]
  simp

end Tabular
