import Tabular.Json.Reader
import Tabular.Record

/-!
# Texts and objects written as JSON

The ways in which a value may be written: every character of a text as itself or by any
of its escapes, and blanks wherever they may stand. Whatever way is taken, reading gives
the value back, with the members of an object in the order of the text.
-/

set_option autoImplicit false

namespace Tabular.Json

open Text

inductive HexUnit : Nat → List Char → Prop
  | digits {a b c d : Char} {w x y z : Nat} (first : hexDigit? a = some w)
      (second : hexDigit? b = some x) (third : hexDigit? c = some y)
      (fourth : hexDigit? d = some z) :
      HexUnit (((w * 16 + x) * 16 + y) * 16 + z) [a, b, c, d]

def shortEscapes : List (Char × Char) :=
  [('"', '"'), ('\\', '\\'), ('/', '/'), ('b', '\x08'), ('f', '\x0c'), ('n', '\n'), ('r', '\r'),
    ('t', '\t')]

inductive Spelling : Char → List Char → Prop
  | plain {c : Char} (printed : 0x20 ≤ c.toNat) (quote : c ≠ '"') (escape : c ≠ '\\') :
      Spelling c [c]
  | short {mark c : Char} (h : (mark, c) ∈ shortEscapes) : Spelling c ['\\', mark]
  | unit {c : Char} {u : List Char} (h : HexUnit c.toNat u) : Spelling c ('\\' :: 'u' :: u)
  | pair {c : Char} {high low : Nat} {u v : List Char} (hu : HexUnit high u) (hv : HexUnit low v)
      (first : 0xD800 ≤ high ∧ high ≤ 0xDBFF) (second : 0xDC00 ≤ low ∧ low ≤ 0xDFFF)
      (value : c.toNat = (high - 0xD800) * 0x400 + (low - 0xDC00) + 0x10000) :
      Spelling c ('\\' :: 'u' :: (u ++ '\\' :: 'u' :: v))

inductive Spelled : List Char → List Char → Prop
  | nil : Spelled [] []
  | cons {c : Char} {cs t ts : List Char} (first : Spelling c t) (rest : Spelled cs ts) :
      Spelled (c :: cs) (t ++ ts)

theorem readUnit_hexUnit {n : Nat} {u : List Char} (h : HexUnit n u) (rest : List Char) :
    readUnit (u ++ rest) = .ok (n, rest) := by
  cases h with
  | digits first second third fourth =>
    simp only [List.cons_append, List.nil_append, readUnit, first, second, third, fourth]

theorem readEscape_short {mark c : Char} (h : (mark, c) ∈ shortEscapes) (rest : List Char) :
    readEscape (mark :: rest) = .ok (c, rest) := by
  simp only [shortEscapes, List.mem_cons, Prod.mk.injEq, List.not_mem_nil, or_false] at h
  rcases h with ⟨rfl, rfl⟩ | ⟨rfl, rfl⟩ | ⟨rfl, rfl⟩ | ⟨rfl, rfl⟩ | ⟨rfl, rfl⟩ | ⟨rfl, rfl⟩ |
    ⟨rfl, rfl⟩ | ⟨rfl, rfl⟩ <;> rfl

theorem readEscape_unit {c : Char} {u : List Char} (h : HexUnit c.toNat u) (rest : List Char) :
    readEscape ('u' :: (u ++ rest)) = .ok (c, rest) := by
  have hvalid : c.toNat < 0xD800 ∨ 0xDFFF < c.toNat ∧ c.toNat < 0x110000 := c.valid
  rw [readEscape, readUnit_hexUnit h]
  simp only
  rw [if_neg (by omega), if_neg (by omega), Char.ofNat_toNat]

theorem readEscape_pair {c : Char} {high low : Nat} {u v : List Char} (hu : HexUnit high u)
    (hv : HexUnit low v) (first : 0xD800 ≤ high ∧ high ≤ 0xDBFF)
    (second : 0xDC00 ≤ low ∧ low ≤ 0xDFFF)
    (value : c.toNat = (high - 0xD800) * 0x400 + (low - 0xDC00) + 0x10000) (rest : List Char) :
    readEscape ('u' :: (u ++ '\\' :: 'u' :: (v ++ rest))) = .ok (c, rest) := by
  rw [readEscape, readUnit_hexUnit hu]
  simp only
  rw [if_neg (by omega), if_pos first, readLowHalf, readUnit_hexUnit hv]
  simp only
  rw [if_neg (by omega), ← value, Char.ofNat_toNat]

/-- A character is read whichever way it is written. -/
theorem readChars_spelling {c : Char} {t : List Char} (h : Spelling c t) (fuel : Nat)
    (acc rest : List Char) :
    readChars (fuel + 1) acc (t ++ rest) = readChars fuel (c :: acc) rest := by
  cases h with
  | plain printed quote escape =>
    rw [List.singleton_append, readChars, if_neg quote, if_neg escape,
      if_neg (Nat.not_lt_of_le printed)]
  | @short mark _ h =>
    have hread := readEscape_short h rest
    simp only [List.cons_append, List.nil_append, readChars, hread]
    rfl
  | @unit _ u h =>
    have hread := readEscape_unit h rest
    simp only [List.cons_append, readChars, hread]
    rfl
  | @pair _ high low u v hu hv first second value =>
    have hread := readEscape_pair hu hv first second value rest
    simp only [List.cons_append, List.append_assoc, readChars, hread]
    rfl

theorem Spelled.length_le {cs ts : List Char} (h : Spelled cs ts) : cs.length ≤ ts.length := by
  induction h with
  | nil => exact Nat.le_refl _
  | cons first _ ih =>
    have hone : ∀ {c : Char} {t : List Char}, Spelling c t → 1 ≤ t.length := by
      intro c t h
      cases h <;> simp
    have hfirst := hone first
    simp only [List.length_cons, List.length_append]
    omega

theorem readChars_spelled {cs ts : List Char} (h : Spelled cs ts) {fuel : Nat}
    (hf : cs.length < fuel) (acc rest : List Char) :
    readChars fuel acc (ts ++ '"' :: rest) = .ok (acc.reverse ++ cs, rest) := by
  induction h generalizing fuel acc with
  | nil =>
    cases fuel with
    | zero => simp at hf
    | succ fuel => simp [readChars]
  | @cons c cs t ts first _ ih =>
    cases fuel with
    | zero => simp at hf
    | succ fuel =>
      rw [List.append_assoc, readChars_spelling first, ih (by simpa using hf)]
      simp

theorem readText_spelled {name : String} {ts : List Char} (h : Spelled name.toList ts)
    (rest : List Char) : readText (ts ++ '"' :: rest) = .ok (name, rest) := by
  have hlength := h.length_le
  rw [readText, readChars_spelled h (by simp; omega)]
  simp [Except.map]

def IsGap (s : List Char) : Prop := ∀ c ∈ s, isSpace c = true

inductive WrittenMember (W : Json → List Char → Prop) : String × Json → List Char → Prop
  | mk {name : String} {v : Json} {ts value g₁ g₂ g₃ g₄ : List Char} (before : IsGap g₁)
      (spelled : Spelled name.toList ts) (colon : IsGap g₂) (between : IsGap g₃)
      (written : W v value) (after : IsGap g₄) :
      WrittenMember W (name, v)
        (g₁ ++ '"' :: (ts ++ '"' :: (g₂ ++ ':' :: (g₃ ++ (value ++ g₄)))))

inductive WrittenMembers (W : Json → List Char → Prop) : List (String × Json) → List Char → Prop
  | last {m : String × Json} {t : List Char} (h : WrittenMember W m t) : WrittenMembers W [m] t
  | more {m : String × Json} {members : List (String × Json)} {t ts : List Char}
      (first : WrittenMember W m t) (rest : WrittenMembers W members ts) :
      WrittenMembers W (m :: members) (t ++ ',' :: ts)

inductive Written : Json → List Char → Prop
  | text {s : String} {ts : List Char} (h : Spelled s.toList ts) :
      Written (.text s) ('"' :: (ts ++ ['"']))
  | empty {gap : List Char} (h : IsGap gap) : Written (.object []) ('\x7b' :: (gap ++ ['\x7d']))
  | object {members : List (String × Json)} {body : List Char}
      (h : WrittenMembers Written members body) :
      Written (.object members) ('\x7b' :: (body ++ ['\x7d']))

section

variable {g g' : List Char}

theorem skipSpace_gap (h : IsGap g) {c : Char} (hc : isSpace c = false) (s : List Char) :
    skipSpace (g ++ c :: s) = c :: s := by
  rw [skipSpace, List.dropWhile_append_of_pos h, List.dropWhile_cons_of_neg (by simp [hc])]

theorem skipSpace_blank (h : IsGap g) : skipSpace g = [] := by
  have hdrop : (g ++ []).dropWhile isSpace = [] := List.dropWhile_append_of_pos h
  rwa [List.append_nil] at hdrop

theorem readColon_gap (h : IsGap g) (s : List Char) : readColon (g ++ ':' :: s) = .ok s := by
  rw [readColon, skipSpace_gap h rfl]
  rfl

theorem nextName_first (h : IsGap g) (s : List Char) :
    nextName true (g ++ '"' :: s) = .ok (some s, s) := by
  rw [nextName, skipSpace_gap h rfl]
  rfl

theorem nextName_next (h : IsGap g) (h' : IsGap g') (s : List Char) :
    nextName false (g ++ ',' :: (g' ++ '"' :: s)) = .ok (some s, s) := by
  rw [nextName, skipSpace_gap h rfl]
  simp [skipSpace_gap h' (c := '"') rfl]

theorem nextName_end (h : IsGap g) (first : Bool) (s : List Char) :
    nextName first (g ++ '\x7d' :: s) = .ok (none, s) := by
  rw [nextName, skipSpace_gap h rfl]
  rfl

end

inductive Ahead : Bool → List Char → List Char → Prop
  | first (body : List Char) : Ahead true body body
  | next {g : List Char} (h : IsGap g) (body : List Char) : Ahead false (g ++ ',' :: body) body

theorem Ahead.nextName {first : Bool} {s g r : List Char} (h : Ahead first s (g ++ '"' :: r))
    (hg : IsGap g) : nextName first s = .ok (some r, r) := by
  cases h with
  | first => exact nextName_first hg r
  | next hgap => exact nextName_next hgap hg r

section

variable {W : Json → List Char → Prop} {item : List Char → Reading Json}

def Reads (W : Json → List Char → Prop) (item : List Char → Reading Json) (v : Json) : Prop :=
  ∀ t, W v t → ∀ g rest, IsGap g → item (g ++ (t ++ rest)) = .ok (v, rest)

theorem readMembers_member {m : String × Json} {t : List Char} (h : WrittenMember W m t)
    (hm : Reads W item m.2) {acc : List (String × Json)} {s tail : List Char}
    (ha : Ahead acc.isEmpty s (t ++ tail)) (fuel : Nat) :
    ∃ g, IsGap g ∧
      readMembers item (fuel + 1) acc s = readMembers item fuel (m :: acc) (g ++ tail) := by
  cases h with
  | @mk name v ts value g₁ g₂ g₃ g₄ before spelled colon between written after =>
    refine ⟨g₄, after, ?_⟩
    simp only [List.append_assoc, List.cons_append] at ha
    have hvalue := hm value written g₃ (g₄ ++ tail) between
    simp only [readMembers, ha.nextName before, readText_spelled spelled, readColon_gap colon,
      hvalue]

/-- Members are read one by one, up to the end of their object. -/
theorem readMembers_written {members : List (String × Json)} {body : List Char}
    (h : WrittenMembers W members body) (hm : ∀ m ∈ members, Reads W item m.2)
    {acc : List (String × Json)} {s tail : List Char}
    (ha : Ahead acc.isEmpty s (body ++ '\x7d' :: tail)) {fuel : Nat}
    (hf : members.length < fuel) :
    readMembers item fuel acc s = .ok (acc.reverse ++ members, tail) := by
  induction h generalizing acc s fuel with
  | @last m t h =>
    obtain ⟨fuel, rfl⟩ : ∃ k, fuel = k + 2 := ⟨fuel - 2, by simp at hf; omega⟩
    obtain ⟨g, hg, hstep⟩ := readMembers_member h (hm m (by simp)) ha (fuel + 1)
    rw [hstep, readMembers, nextName_end hg]
    simp
  | @more m members t ts first rest ih =>
    obtain ⟨fuel, rfl⟩ : ∃ k, fuel = k + 1 := ⟨fuel - 1, by omega⟩
    rw [List.append_assoc, List.cons_append] at ha
    obtain ⟨g, hg, hstep⟩ := readMembers_member first (hm m (by simp)) ha fuel
    have ha' : Ahead (m :: acc).isEmpty (g ++ ',' :: (ts ++ '\x7d' :: tail))
        (ts ++ '\x7d' :: tail) := .next hg _
    have hrest := ih (fun n hn => hm n (List.mem_cons_of_mem m hn)) ha' (by simpa using hf)
    rw [hstep, hrest]
    simp

theorem WrittenMembers.length_lt {members : List (String × Json)} {body : List Char}
    (h : WrittenMembers W members body) : members.length < body.length := by
  induction h with
  | last h =>
    cases h
    simp
    omega
  | more first _ ih =>
    cases first
    simp
    omega

end

inductive Nested : Nat → Json → Prop
  | text (n : Nat) (s : String) : Nested n (.text s)
  | object {n : Nat} {members : List (String × Json)} (distinct : (members.map Prod.fst).Nodup)
      (inside : ∀ m ∈ members, Nested n m.2) : Nested (n + 1) (.object members)

/-- A value is read from each of its texts. -/
theorem reads_written {n : Nat} {v : Json} (h : Nested n v) : Reads Written (readValue n) v := by
  induction h with
  | text n s =>
    intro t ht g rest hg
    cases ht with
    | text hs =>
      rw [List.cons_append, List.append_assoc, List.singleton_append, readValue,
        skipSpace_gap hg rfl]
      simp only [readText_spelled hs]
      rfl
  | @object n members distinct _ ih =>
    intro t ht g rest hg
    have hvalue (body : List Char) {g : List Char} (hg : IsGap g)
        (hbody : readMembers (readValue n) ((body ++ '\x7d' :: rest).length + 1) []
          (body ++ '\x7d' :: rest) = .ok (members, rest)) :
        readValue (n + 1) (g ++ ('\x7b' :: (body ++ ['\x7d']) ++ rest)) =
          .ok (.object members, rest) := by
      rw [List.cons_append, List.append_assoc, List.singleton_append, readValue,
        skipSpace_gap hg rfl]
      simp only [hbody, Except.map, Record.ofList_of_nodup distinct]
    cases ht with
    | @empty gap hgap =>
      refine hvalue gap hg ?_
      rw [readMembers, nextName_end hgap]
      rfl
    | @object _ body hb =>
      refine hvalue body hg ?_
      have hlength := hb.length_lt
      have ha : Ahead ([] : List (String × Json)).isEmpty (body ++ '\x7d' :: rest)
          (body ++ '\x7d' :: rest) := .first _
      exact readMembers_written hb ih ha (by simp; omega)

/-- A text of a value, blanks around it or not, is read as the value. -/
theorem read_written {v : Json} {t g g' : List Char} (hv : Nested depthLimit v) (h : Written v t)
    (hg : IsGap g) (hg' : IsGap g') : read (g ++ (t ++ g')) = .ok v := by
  rw [read, reads_written hv t h g g' hg]
  simp only [readEnd, skipSpace_blank hg']

theorem hexDigit?_hexDigit {n : Nat} (h : n < 16) : hexDigit? (hexDigit n) = some n := by
  have hall : ∀ n < 16, hexDigit? (hexDigit n) = some n := by decide
  exact hall n h

theorem spelling_escapedChar (c : Char) : Spelling c (escapedChar c) := by
  have hcode {d : Char} (h : c.toNat = d.toNat) : c = d := Char.toNat_inj.1 h
  rw [escapedChar]
  split
  · subst c
    exact .short (by decide)
  split
  · subst c
    exact .short (by decide)
  split
  · subst c
    exact .short (by decide)
  split
  · subst c
    exact .short (by decide)
  split
  · subst c
    exact .short (by decide)
  split
  · rw [hcode (d := '\x08') ‹_›]
    exact .short (by decide)
  split
  · rw [hcode (d := '\x0c') ‹_›]
    exact .short (by decide)
  split
  · have hunit : HexUnit (((0 * 16 + 0) * 16 + c.toNat / 16) * 16 + c.toNat % 16)
        ['0', '0', hexDigit (c.toNat / 16), hexDigit (c.toNat % 16)] :=
      .digits rfl rfl (hexDigit?_hexDigit (by omega)) (hexDigit?_hexDigit (by omega))
    rw [show ((0 * 16 + 0) * 16 + c.toNat / 16) * 16 + c.toNat % 16 = c.toNat by omega] at hunit
    exact .unit hunit
  · exact .plain (by omega) ‹_› ‹_›

theorem spelled_escaped (cs : List Char) : Spelled cs (cs.flatMap escapedChar) := by
  induction cs with
  | nil => exact .nil
  | cons c cs ih => exact .cons (spelling_escapedChar c) ih

theorem writtenMember_compact {m : String × Json} (h : Written m.2 (compact m.2)) :
    WrittenMember Written m (textLiteral m.1 ++ ':' :: compact m.2) := by
  have hgap : IsGap [] := by simp [IsGap]
  have hmember := WrittenMember.mk hgap (spelled_escaped m.1.toList) hgap hgap h hgap
  simpa [textLiteral] using hmember

theorem writtenMembers_compact (m : String × Json) (members : List (String × Json))
    (h : ∀ n ∈ m :: members, Written n.2 (compact n.2)) :
    WrittenMembers Written (m :: members) (joined [','] (compactMembers (m :: members))) := by
  induction members generalizing m with
  | nil =>
    have hlast := WrittenMembers.last (writtenMember_compact (h m (by simp)))
    simpa [joined, compactMembers] using hlast
  | cons n members ih =>
    have hrest := ih n fun k hk => h k (List.mem_cons_of_mem m hk)
    have hmore := WrittenMembers.more (writtenMember_compact (h m (by simp))) hrest
    simpa [joined, compactMembers] using hmore

/-- The compact form is one of the texts of a value. -/
theorem written_compact {n : Nat} {v : Json} (h : Nested n v) : Written v (compact v) := by
  induction h with
  | text n s => exact .text (spelled_escaped s.toList)
  | @object n members _ _ ih =>
    cases members with
    | nil => exact .empty (by simp [IsGap, compactMembers, joined])
    | cons m members => exact .object (writtenMembers_compact m members ih)

end Tabular.Json
