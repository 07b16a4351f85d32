import Mathlib.Data.List.TakeWhile
import Tabular.Proofs.JsonGrammar
import Tabular.Proofs.Results

/-!
# Documents as they are written

What stands at the front of a text: a value, with all the members that its objects are
written with, and what is behind it. A text stands for one document at most. Reading gives
that document with the members of one name put together.
-/

set_option autoImplicit false

namespace Tabular.Json

open Text Decimal

inductive ScalarAt : Json → List Char → List Char → Prop
  | null (rest : List Char) : ScalarAt .null ("null".toList ++ rest) rest
  | truth (rest : List Char) : ScalarAt (.bool true) ("true".toList ++ rest) rest
  | falsity (rest : List Char) : ScalarAt (.bool false) ("false".toList ++ rest) rest
  | negative {n : Number} {s rest : List Char} (h : readNumber false s = .ok (n, rest)) :
      ScalarAt (.number n) ('-' :: s) rest
  | number {n : Number} {c : Char} {s rest : List Char} (digit : isDigit c = true)
      (h : readNumber true (c :: s) = .ok (n, rest)) : ScalarAt (.number n) (c :: s) rest
  | text {t : String} {ts : List Char} (h : Spelled t.toList ts) (rest : List Char) :
      ScalarAt (.text t) ('"' :: (ts ++ '"' :: rest)) rest

section

variable (W : Json → List Char → List Char → Prop)

inductive ItemsAt : List Json → List Char → List Char → Prop
  | last {v : Json} {g s g' rest : List Char} (before : IsGap g) (h : W v s (g' ++ ']' :: rest))
      (after : IsGap g') : ItemsAt [v] (g ++ s) rest
  | more {v : Json} {items : List Json} {g s g' t rest : List Char} (before : IsGap g)
      (h : W v s (g' ++ ',' :: t)) (after : IsGap g') (others : ItemsAt items t rest) :
      ItemsAt (v :: items) (g ++ s) rest

inductive MemberAt : String × Json → List Char → List Char → Prop
  | mk {name : String} {v : Json} {ts g₁ g₂ g₃ s rest : List Char} (before : IsGap g₁)
      (spelled : Spelled name.toList ts) (colon : IsGap g₂) (between : IsGap g₃)
      (h : W v s rest) :
      MemberAt (name, v) (g₁ ++ '"' :: (ts ++ '"' :: (g₂ ++ ':' :: (g₃ ++ s)))) rest

inductive MembersAt : List (String × Json) → List Char → List Char → Prop
  | last {m : String × Json} {s g rest : List Char} (h : MemberAt W m s (g ++ '\x7d' :: rest))
      (after : IsGap g) : MembersAt [m] s rest
  | more {m : String × Json} {members : List (String × Json)} {s g t rest : List Char}
      (h : MemberAt W m s (g ++ ',' :: t)) (after : IsGap g) (others : MembersAt members t rest) :
      MembersAt (m :: members) s rest

inductive CompoundAt : Json → List Char → List Char → Prop
  | noItems {g : List Char} (h : IsGap g) (rest : List Char) :
      CompoundAt (.array []) ('[' :: (g ++ ']' :: rest)) rest
  | items {items : List Json} {s rest : List Char} (h : ItemsAt W items s rest) :
      CompoundAt (.array items) ('[' :: s) rest
  | noMembers {g : List Char} (h : IsGap g) (rest : List Char) :
      CompoundAt (.object []) ('\x7b' :: (g ++ '\x7d' :: rest)) rest
  | members {members : List (String × Json)} {s rest : List Char} (h : MembersAt W members s rest) :
      CompoundAt (.object members) ('\x7b' :: s) rest

end

def ValueAt : Nat → Json → List Char → List Char → Prop
  | 0 => ScalarAt
  | n + 1 => fun v s rest => ScalarAt v s rest ∨ CompoundAt (ValueAt n) v s rest

def Document (v : Json) (s : List Char) : Prop :=
  ∃ n g t rest, IsGap g ∧ s = g ++ t ∧ ValueAt n v t rest ∧ IsGap rest

section

variable {g g' s s' rest rest' : List Char} {v v' : Json} {n m : Nat}

theorem gap_unique (hg : IsGap g) (hg' : IsGap g') {c c' : Char} (hc : isSpace c = false)
    (hc' : isSpace c' = false) (h : g ++ c :: s = g' ++ c' :: s') : c = c' ∧ s = s' := by
  have hskip := congrArg skipSpace h
  rw [skipSpace_gap hg hc, skipSpace_gap hg' hc'] at hskip
  exact List.cons.inj hskip

theorem spelled_unique {name name' : String} {ts ts' : List Char} (h : Spelled name.toList ts)
    (h' : Spelled name'.toList ts') (hs : ts ++ '"' :: rest = ts' ++ '"' :: rest') :
    name = name' ∧ rest = rest' := by
  have hread := readText_spelled h rest
  rw [hs, readText_spelled h' rest'] at hread
  obtain ⟨rfl, rfl⟩ := Prod.mk.inj (Except.ok.inj hread)
  exact ⟨rfl, rfl⟩

theorem space_of_digit {c : Char} (h : isDigit c = true) : isSpace c = false := by
  have hspace : ∀ d, isSpace d = true → isDigit d = false := by
    intro d hd
    simp only [isSpace, Bool.or_eq_true, decide_eq_true_eq] at hd
    rcases hd with ((rfl | rfl) | rfl) | rfl <;> decide
  exact Bool.eq_false_iff.2 fun hs => by simp [hspace c hs] at h

theorem readValue_number {c : Char} (h : isDigit c = true) (n : Nat) (s : List Char) :
    readValue n (c :: s) =
      (readNumber true (c :: s)).map fun (x, rest) => (.number x, rest) := by
  rw [readValue, skipSpace, List.dropWhile_cons_of_neg (by simp [space_of_digit h])]
  split
  case h_1 hs => cases hs
  case h_9 c' rest hs =>
    obtain ⟨rfl, rfl⟩ := List.cons.inj hs
    rw [if_pos h]
  -- every other mark is no digit
  all_goals
    rename_i hs
    obtain ⟨rfl, -⟩ := List.cons.inj hs
    exact absurd h (by decide)

/-- A scalar is read as it stands. -/
theorem readValue_scalar (h : ScalarAt v s rest) (n : Nat) : readValue n s = .ok (v, rest) := by
  cases h with
  | null | truth | falsity =>
    rw [readValue]
    rfl
  | negative h =>
    rw [readValue]
    simp [skipSpace, isSpace, h, Except.map]
  | number digit h =>
    rw [readValue_number digit, h]
    rfl
  | text h =>
    rw [readValue]
    simp [skipSpace, isSpace, readText_spelled h, Except.map]

variable {W : Json → List Char → List Char → Prop}

structure Decided (W : Json → List Char → List Char → Prop) : Prop where
  begins : ∀ {v s rest}, W v s rest → ∃ c t, s = c :: t ∧ isSpace c = false ∧ c ≠ ']'
  unique : ∀ {v v' s rest rest'}, W v s rest → W v' s rest' → v = v' ∧ rest = rest'

theorem Decided.after_gap (hW : Decided W) (hg : IsGap g) (hg' : IsGap g') (h : W v s rest)
    (h' : W v' s' rest') (hs : g ++ s = g' ++ s') : v = v' ∧ rest = rest' := by
  obtain ⟨c, t, rfl, hc, -⟩ := hW.begins h
  obtain ⟨c', t', rfl, hc', -⟩ := hW.begins h'
  obtain ⟨rfl, rfl⟩ := gap_unique hg hg' hc hc' hs
  exact hW.unique h h'

theorem ItemsAt.begins (hW : Decided W) {items : List Json} (h : ItemsAt W items s rest) :
    ∃ g c t, IsGap g ∧ s = g ++ c :: t ∧ isSpace c = false ∧ c ≠ ']' := by
  cases h with
  | last before h _ | more before h _ _ =>
    obtain ⟨c, t, rfl, hc, hne⟩ := hW.begins h
    exact ⟨_, c, t, before, rfl, hc, hne⟩

theorem ItemsAt.unique (hW : Decided W) {items items' : List Json} (h : ItemsAt W items s rest)
    (h' : ItemsAt W items' s' rest') (hs : s = s') : items = items' ∧ rest = rest' := by
  induction h generalizing items' s' with
  | last before h after =>
    cases h' with
    | last before' h' after' =>
      obtain ⟨rfl, hrest⟩ := hW.after_gap before before' h h' hs
      exact ⟨rfl, (gap_unique after after' rfl rfl hrest).2⟩
    | more before' h' after' _ =>
      obtain ⟨-, hrest⟩ := hW.after_gap before before' h h' hs
      exact absurd (gap_unique after after' rfl rfl hrest).1 (by decide)
  | more before h after _ ih =>
    cases h' with
    | last before' h' after' =>
      obtain ⟨-, hrest⟩ := hW.after_gap before before' h h' hs
      exact absurd (gap_unique after after' rfl rfl hrest).1 (by decide)
    | more before' h' after' others =>
      obtain ⟨rfl, hrest⟩ := hW.after_gap before before' h h' hs
      obtain ⟨rfl, hrest⟩ := ih others (gap_unique after after' rfl rfl hrest).2
      exact ⟨rfl, hrest⟩

theorem MemberAt.unique (hW : Decided W) {m m' : String × Json} (h : MemberAt W m s rest)
    (h' : MemberAt W m' s' rest') (hs : s = s') : m = m' ∧ rest = rest' := by
  cases h with
  | mk before spelled colon between h =>
    cases h' with
    | mk before' spelled' colon' between' h' =>
      obtain ⟨-, hname⟩ := gap_unique before before' rfl rfl hs
      obtain ⟨rfl, hcolon⟩ := spelled_unique spelled spelled' hname
      obtain ⟨-, hvalue⟩ := gap_unique colon colon' rfl rfl hcolon
      obtain ⟨rfl, hrest⟩ := hW.after_gap between between' h h' hvalue
      exact ⟨rfl, hrest⟩

theorem MembersAt.begins {members : List (String × Json)} (h : MembersAt W members s rest) :
    ∃ g t, IsGap g ∧ s = g ++ '"' :: t := by
  cases h with
  | last h _ | more h _ _ =>
    cases h with
    | mk before => exact ⟨_, _, before, rfl⟩

theorem MembersAt.unique (hW : Decided W) {members members' : List (String × Json)}
    (h : MembersAt W members s rest) (h' : MembersAt W members' s' rest') (hs : s = s') :
    members = members' ∧ rest = rest' := by
  induction h generalizing members' s' with
  | last h after =>
    cases h' with
    | last h' after' =>
      obtain ⟨rfl, hrest⟩ := h.unique hW h' hs
      exact ⟨rfl, (gap_unique after after' rfl rfl hrest).2⟩
    | more h' after' _ =>
      obtain ⟨-, hrest⟩ := h.unique hW h' hs
      exact absurd (gap_unique after after' rfl rfl hrest).1 (by decide)
  | more h after _ ih =>
    cases h' with
    | last h' after' =>
      obtain ⟨-, hrest⟩ := h.unique hW h' hs
      exact absurd (gap_unique after after' rfl rfl hrest).1 (by decide)
    | more h' after' others =>
      obtain ⟨rfl, hrest⟩ := h.unique hW h' hs
      obtain ⟨rfl, hrest⟩ := ih others (gap_unique after after' rfl rfl hrest).2
      exact ⟨rfl, hrest⟩

theorem ItemsAt.not_closed (hW : Decided W) {items : List Json} (h : ItemsAt W items s rest)
    (hg : IsGap g) (hs : s = g ++ ']' :: rest') : False := by
  obtain ⟨g', c, t, hg', rfl, hc, hne⟩ := h.begins hW
  exact hne (gap_unique hg' hg hc rfl hs).1

theorem MembersAt.not_closed {members : List (String × Json)} (h : MembersAt W members s rest)
    (hg : IsGap g) (hs : s = g ++ '\x7d' :: rest') : False := by
  obtain ⟨g', t, hg', rfl⟩ := h.begins
  exact absurd (gap_unique hg' hg rfl rfl hs).1 (by decide)

theorem CompoundAt.begins (h : CompoundAt W v s rest) :
    ∃ c t, s = c :: t ∧ (c = '[' ∨ c = '\x7b') := by
  cases h with
  | noItems | items => exact ⟨_, _, rfl, .inl rfl⟩
  | noMembers | members => exact ⟨_, _, rfl, .inr rfl⟩

theorem CompoundAt.unique (hW : Decided W) (h : CompoundAt W v s rest)
    (h' : CompoundAt W v' s' rest') (hs : s = s') : v = v' ∧ rest = rest' := by
  cases h with
  | noItems hg =>
    cases h' with
    | noItems hg' => exact ⟨rfl, (gap_unique hg hg' rfl rfl (List.cons.inj hs).2).2⟩
    | items h' => exact (h'.not_closed hW hg (List.cons.inj hs).2.symm).elim
    | noMembers | members => exact absurd (List.cons.inj hs).1 (by decide)
  | items h =>
    cases h' with
    | noItems hg' => exact (h.not_closed hW hg' (List.cons.inj hs).2).elim
    | items h' =>
      obtain ⟨rfl, hrest⟩ := h.unique hW h' (List.cons.inj hs).2
      exact ⟨rfl, hrest⟩
    | noMembers | members => exact absurd (List.cons.inj hs).1 (by decide)
  | noMembers hg =>
    cases h' with
    | noItems | items => exact absurd (List.cons.inj hs).1 (by decide)
    | noMembers hg' => exact ⟨rfl, (gap_unique hg hg' rfl rfl (List.cons.inj hs).2).2⟩
    | members h' => exact (h'.not_closed hg (List.cons.inj hs).2.symm).elim
  | members h =>
    cases h' with
    | noItems | items => exact absurd (List.cons.inj hs).1 (by decide)
    | noMembers hg' => exact (h.not_closed hg' (List.cons.inj hs).2).elim
    | members h' =>
      obtain ⟨rfl, hrest⟩ := h.unique hW h' (List.cons.inj hs).2
      exact ⟨rfl, hrest⟩

theorem ScalarAt.begins (h : ScalarAt v s rest) :
    ∃ c t, s = c :: t ∧ isSpace c = false ∧ c ≠ ']' ∧ c ≠ '[' ∧ c ≠ '\x7b' := by
  cases h with
  | @number _ c s _ digit _ =>
    refine ⟨c, s, rfl, space_of_digit digit, ?_, ?_, ?_⟩ <;>
      · rintro rfl
        exact absurd digit (by decide)
  | _ => exact ⟨_, _, rfl, by decide, by decide, by decide, by decide⟩

theorem decided_scalar : Decided ScalarAt where
  begins h := by
    obtain ⟨c, t, hs, hc, hne, -⟩ := h.begins
    exact ⟨c, t, hs, hc, hne⟩
  unique h h' := by
    have hread := readValue_scalar h 0
    rw [readValue_scalar h' 0] at hread
    obtain ⟨rfl, rfl⟩ := Prod.mk.inj (Except.ok.inj hread)
    exact ⟨rfl, rfl⟩

theorem ScalarAt.not_compound (h : ScalarAt v s rest) (h' : CompoundAt W v' s rest') : False := by
  obtain ⟨c, t, hs, -, -, hlist, hobject⟩ := h.begins
  obtain ⟨c', t', hs', hc'⟩ := h'.begins
  obtain ⟨rfl, -⟩ := List.cons.inj (hs.symm.trans hs')
  exact hc'.elim hlist hobject

theorem decided_value (n : Nat) : Decided (ValueAt n) := by
  induction n with
  | zero => exact decided_scalar
  | succ n ih =>
    constructor
    · rintro v s rest (h | h)
      · exact decided_scalar.begins h
      · obtain ⟨c, t, hs, rfl | rfl⟩ := h.begins
        · exact ⟨_, t, hs, by decide, by decide⟩
        · exact ⟨_, t, hs, by decide, by decide⟩
    · rintro v v' s rest rest' (h | h) (h' | h')
      · exact decided_scalar.unique h h'
      · exact (h.not_compound h').elim
      · exact (h'.not_compound h).elim
      · exact h.unique ih h' rfl

variable {W' : Json → List Char → List Char → Prop}

theorem ItemsAt.mono (hW : ∀ {v s rest}, W v s rest → W' v s rest) {items : List Json}
    (h : ItemsAt W items s rest) : ItemsAt W' items s rest := by
  induction h with
  | last before h after => exact .last before (hW h) after
  | more before h after _ ih => exact .more before (hW h) after ih

theorem MemberAt.mono (hW : ∀ {v s rest}, W v s rest → W' v s rest) {m : String × Json}
    (h : MemberAt W m s rest) : MemberAt W' m s rest := by
  cases h with
  | mk before spelled colon between h => exact .mk before spelled colon between (hW h)

theorem MembersAt.mono (hW : ∀ {v s rest}, W v s rest → W' v s rest)
    {members : List (String × Json)} (h : MembersAt W members s rest) :
    MembersAt W' members s rest := by
  induction h with
  | last h after => exact .last (h.mono hW) after
  | more h after _ ih => exact .more (h.mono hW) after ih

theorem valueAt_succ (h : ValueAt n v s rest) : ValueAt (n + 1) v s rest := by
  induction n generalizing v s rest with
  | zero => exact .inl h
  | succ n ih =>
    rcases h with h | h
    · exact .inl h
    · refine .inr ?_
      cases h with
      | noItems hg => exact .noItems hg _
      | items h => exact .items (h.mono ih)
      | noMembers hg => exact .noMembers hg _
      | members h => exact .members (h.mono ih)

theorem valueAt_le (hn : n ≤ m) (h : ValueAt n v s rest) : ValueAt m v s rest := by
  induction hn with
  | refl => exact h
  | step _ ih => exact valueAt_succ ih

/-- A text is one document at most. -/
theorem Document.unique (h : Document v s) (h' : Document v' s) : v = v' := by
  obtain ⟨n, g, t, rest, hg, rfl, hv, -⟩ := h
  obtain ⟨m, g', t', rest', hg', hs, hv', -⟩ := h'
  have hmax := valueAt_le (Nat.le_max_left n m) hv
  have hmax' := valueAt_le (Nat.le_max_right n m) hv'
  exact ((decided_value (max n m)).after_gap hg hg' hmax hmax' hs).1

end

theorem gap_skipSpace (s : List Char) : ∃ g, IsGap g ∧ s = g ++ skipSpace s :=
  ⟨s.takeWhile isSpace, fun _ => List.mem_takeWhile_imp, List.takeWhile_append_dropWhile.symm⟩

theorem readWord_ok {α : Type} {v x : α} {w s rest : List Char}
    (h : readWord v w s = .ok (x, rest)) : x = v ∧ s = w ++ rest := by
  induction w generalizing s with
  | nil =>
    obtain ⟨rfl, rfl⟩ := Prod.mk.inj (Except.ok.inj h)
    exact ⟨rfl, rfl⟩
  | cons c w ih =>
    cases s with
    | nil => cases h
    | cons d s =>
      rw [readWord] at h
      split at h
      · rename_i hc
        obtain ⟨rfl, rfl⟩ := ih h
        exact ⟨rfl, by rw [hc]; rfl⟩
      · cases h

theorem readUnit_ok {s rest : List Char} {n : Nat} (h : readUnit s = .ok (n, rest)) :
    ∃ u, HexUnit n u ∧ s = u ++ rest := by
  rcases s with _ | ⟨a, _ | ⟨b, _ | ⟨c, _ | ⟨d, r⟩⟩⟩⟩
  case cons.cons.cons.cons =>
    rw [readUnit] at h
    split at h
    · obtain ⟨rfl, rfl⟩ := Prod.mk.inj (Except.ok.inj h)
      exact ⟨_, .digits ‹_› ‹_› ‹_› ‹_›, rfl⟩
    · cases h
  all_goals
    simp only [readUnit] at h
    split at h <;> cases h

theorem hexDigit_lt {c : Char} {k : Nat} (h : hexDigit? c = some k) : k < 16 := by
  have hval : ∀ {a b : Char}, a ≤ b → a.toNat ≤ b.toNat := fun h => h
  rw [hexDigit?] at h
  split at h
  · rename_i hc
    have := hval hc.2
    simp only [Option.some.injEq] at h
    simp at this
    omega
  split at h
  · rename_i hc
    have := hval hc.2
    simp only [Option.some.injEq] at h
    simp at this
    omega
  split at h
  · rename_i hc
    have := hval hc.2
    simp only [Option.some.injEq] at h
    simp at this
    omega
  · cases h

theorem HexUnit.lt {n : Nat} {u : List Char} (h : HexUnit n u) : n < 0x10000 := by
  cases h with
  | digits first second third fourth =>
    have := hexDigit_lt first
    have := hexDigit_lt second
    have := hexDigit_lt third
    have := hexDigit_lt fourth
    omega

theorem toNat_ofNat {n : Nat} (h : n.isValidChar) : (Char.ofNat n).toNat = n := by
  rw [Char.ofNat, dif_pos h]
  rfl

theorem readLowHalf_ok {high : Nat} {s rest : List Char} {c : Char}
    (hh : 0xD800 ≤ high ∧ high ≤ 0xDBFF) :
    readLowHalf high s = .ok (c, rest) → ∃ low v, HexUnit low v ∧ (0xDC00 ≤ low ∧ low ≤ 0xDFFF) ∧
      s = '\\' :: 'u' :: (v ++ rest) ∧
      c.toNat = (high - 0xD800) * 0x400 + (low - 0xDC00) + 0x10000 := by
  fun_cases readLowHalf high s with
  | case5 r low r' hu hlow =>
    intro h
    obtain ⟨v, hv, rfl⟩ := readUnit_ok hu
    obtain ⟨rfl, rfl⟩ := Prod.mk.inj (Except.ok.inj h)
    refine ⟨low, v, hv, by omega, rfl, toNat_ofNat ?_⟩
    omega
  | _ => intro h; cases h

theorem readEscape_ok {s rest : List Char} {c : Char} :
    readEscape s = .ok (c, rest) → ∃ t, Spelling c ('\\' :: t) ∧ s = t ++ rest := by
  fun_cases readEscape s with
  | case1 | case10 | case11 | case14 => intro h; cases h
  | case12 s n rest' hread hlow hhigh =>
    intro h
    obtain ⟨u, hu, rfl⟩ := readUnit_ok hread
    obtain ⟨low, v, hv, hlow, rfl, hc⟩ := readLowHalf_ok hhigh h
    exact ⟨'u' :: (u ++ '\\' :: 'u' :: v), .pair hu hv hhigh hlow hc, by simp⟩
  | case13 s n rest' hread hlow hhigh =>
    intro h
    obtain ⟨u, hu, rfl⟩ := readUnit_ok hread
    obtain ⟨rfl, rfl⟩ := Prod.mk.inj (Except.ok.inj h)
    have hlt := hu.lt
    rw [← toNat_ofNat (n := n) (by omega)] at hu
    exact ⟨'u' :: u, .unit hu, rfl⟩
  | _ =>
    intro h
    obtain ⟨rfl, rfl⟩ := Prod.mk.inj (Except.ok.inj h)
    exact ⟨[_], .short (by decide), rfl⟩

theorem readChars_ok {fuel : Nat} {acc s cs rest : List Char}
    (h : readChars fuel acc s = .ok (cs, rest)) :
    ∃ ds ts, Spelled ds ts ∧ cs = acc.reverse ++ ds ∧ s = ts ++ '"' :: rest := by
  induction fuel generalizing acc s with
  | zero => cases h
  | succ fuel ih =>
    cases s with
    | nil => cases h
    | cons c s =>
      rw [readChars] at h
      split at h
      · rename_i hc
        obtain ⟨rfl, rfl⟩ := Prod.mk.inj (Except.ok.inj h)
        exact ⟨[], [], .nil, by simp, by rw [hc]; rfl⟩
      split at h
      · rename_i hc
        split at h
        · cases h
        · rename_i d s' hread
          obtain ⟨t, hspelling, rfl⟩ := readEscape_ok hread
          obtain ⟨ds, ts, hspelled, rfl, rfl⟩ := ih h
          exact ⟨d :: ds, _, .cons hspelling hspelled, by simp, by simp [hc]⟩
      split at h
      · cases h
      · rename_i hquote hescape hprinted
        obtain ⟨ds, ts, hspelled, rfl, rfl⟩ := ih h
        exact ⟨c :: ds, _, .cons (.plain (Nat.le_of_not_lt hprinted) hquote hescape) hspelled,
          by simp, by simp⟩

theorem readText_ok {s rest : List Char} {name : String} (h : readText s = .ok (name, rest)) :
    ∃ ts, Spelled name.toList ts ∧ s = ts ++ '"' :: rest := by
  obtain ⟨⟨cs, r⟩, hread, hname⟩ := map_eq_ok.1 h
  obtain ⟨rfl, rfl⟩ := Prod.mk.inj hname
  obtain ⟨ds, ts, hspelled, hcs, hs⟩ := readChars_ok hread
  exact ⟨ts, by simpa [hcs] using hspelled, hs⟩

theorem readColon_ok {s rest : List Char} (h : readColon s = .ok rest) :
    ∃ g, IsGap g ∧ s = g ++ ':' :: rest := by
  obtain ⟨g, hg, hs⟩ := gap_skipSpace s
  rw [readColon] at h
  split at h
  · cases h
  · rename_i hskip
    obtain rfl := Except.ok.inj h
    exact ⟨g, hg, by rw [hs, hskip]⟩
  · cases h

/-- The name that comes next, or the end of the object. -/
theorem nextName_ok {first : Bool} {s r : List Char} {o : Option (List Char)}
    (h : nextName first s = .ok (o, r)) :
    (o = none ∧ ∃ g, IsGap g ∧ s = g ++ '\x7d' :: r) ∨
      (o = some r ∧ ∃ g, IsGap g ∧ Ahead first s (g ++ '"' :: r)) := by
  obtain ⟨g, hg, hs⟩ := gap_skipSpace s
  rw [nextName] at h
  split at h
  · cases h
  · rename_i hskip
    obtain ⟨rfl, rfl⟩ := Prod.mk.inj (Except.ok.inj h)
    exact .inl ⟨rfl, g, hg, by rw [hs, hskip]⟩
  rename_i c rest _ hskip
  cases first with
  | true =>
    simp only [if_true] at h
    split at h
    · rename_i hc
      obtain ⟨rfl, rfl⟩ := Prod.mk.inj (Except.ok.inj h)
      refine .inr ⟨rfl, g, hg, ?_⟩
      rw [hs, hskip, hc]
      exact .first _
    · cases h
  | false =>
    simp only [Bool.false_eq_true, if_false] at h
    split at h
    · cases h
    rename_i hc
    obtain ⟨g', hg', hs'⟩ := gap_skipSpace rest
    split at h
    · rename_i hskip'
      obtain ⟨rfl, rfl⟩ := Prod.mk.inj (Except.ok.inj h)
      refine .inr ⟨rfl, g', hg', ?_⟩
      rw [hs, hskip, hs', hskip', Classical.not_not.1 hc]
      exact .next hg _
    · cases h
    · cases h
    · cases h

mutual

def merged : Json → Json
  | .object members => .object (Record.ofList (mergedMembers members))
  | .array items => .array (mergedItems items)
  | v => v

def mergedMembers : List (String × Json) → List (String × Json)
  | [] => []
  | (name, v) :: rest => (name, merged v) :: mergedMembers rest

def mergedItems : List Json → List Json
  | [] => []
  | v :: rest => merged v :: mergedItems rest

end

section

variable {W : Json → List Char → List Char → Prop} {item : List Char → Reading Json}

def Finds (W : Json → List Char → List Char → Prop) (item : List Char → Reading Json) : Prop :=
  ∀ {s v rest}, item s = .ok (v, rest) →
    ∃ raw g t, IsGap g ∧ s = g ++ t ∧ W raw t rest ∧ v = raw.merged

theorem IsGap.append {g g' : List Char} (h : IsGap g) (h' : IsGap g') : IsGap (g ++ g') :=
  List.forall_mem_append.2 ⟨h, h'⟩

/-- Members are read up to the brace of their object. -/
theorem readMembers_ok (hW : Finds W item) {fuel : Nat} {acc members : List (String × Json)}
    {s rest : List Char} (h : readMembers item fuel acc s = .ok (members, rest)) :
    (members = acc.reverse ∧ ∃ g, IsGap g ∧ s = g ++ '\x7d' :: rest) ∨
      ∃ body raw, Ahead acc.isEmpty s body ∧ MembersAt W raw body rest ∧
        members = acc.reverse ++ mergedMembers raw := by
  induction fuel generalizing acc s with
  | zero => cases h
  | succ fuel ih =>
    rw [readMembers] at h
    split at h
    · cases h
    · rename_i hname
      obtain ⟨rfl, rfl⟩ := Prod.mk.inj (Except.ok.inj h)
      rcases nextName_ok hname with ⟨-, hend⟩ | ⟨hnone, -⟩
      · exact .inl ⟨rfl, hend⟩
      · cases hnone
    rename_i hname
    split at h
    · cases h
    rename_i name s₁ htext
    split at h
    · cases h
    rename_i s₂ hcolon
    split at h
    · cases h
    rename_i v s₃ hvalue
    rcases nextName_ok hname with ⟨hnone, -⟩ | ⟨hsome, g₁, hg₁, hahead⟩
    · cases hnone
    obtain rfl := Option.some.inj hsome
    obtain ⟨ts, hspelled, rfl⟩ := readText_ok htext
    obtain ⟨g₂, hg₂, rfl⟩ := readColon_ok hcolon
    obtain ⟨raw, g₃, t, hg₃, rfl, hraw, rfl⟩ := hW hvalue
    have hmember : MemberAt W (name, raw) _ s₃ := .mk hg₁ hspelled hg₂ hg₃ hraw
    rcases ih h with ⟨rfl, g, hg, rfl⟩ | ⟨body, others, hnext, hothers, rfl⟩
    · refine .inr ⟨_, [(name, raw)], hahead, .last hmember hg, ?_⟩
      simp [mergedMembers]
    · cases hnext with
      | next hg =>
        refine .inr ⟨_, (name, raw) :: others, hahead, .more hmember hg hothers, ?_⟩
        simp [mergedMembers]

/-- Items are read up to the bracket of their list. -/
theorem readItems_ok (hW : Finds W item) {fuel : Nat} {acc items : List Json}
    {s rest : List Char} (h : readItems item fuel acc s = .ok (items, rest)) :
    (items = acc.reverse ∧ ∃ g, IsGap g ∧ s = g ++ ']' :: rest) ∨
      ∃ body raw, Ahead acc.isEmpty s body ∧ ItemsAt W raw body rest ∧
        items = acc.reverse ++ mergedItems raw := by
  induction fuel generalizing acc s with
  | zero => cases h
  | succ fuel ih =>
    obtain ⟨g, hg, hs⟩ := gap_skipSpace s
    -- one more item, read behind a gap
    have hstep {r v s'} (hvalue : item r = .ok (v, s')) {g₁ : List Char} (hg₁ : IsGap g₁)
        (hahead : Ahead acc.isEmpty s (g₁ ++ r))
        (h : readItems item fuel (v :: acc) s' = .ok (items, rest)) :
        ∃ body raw, Ahead acc.isEmpty s body ∧ ItemsAt W raw body rest ∧
          items = acc.reverse ++ mergedItems raw := by
      obtain ⟨raw, g₂, t, hg₂, rfl, hraw, rfl⟩ := hW hvalue
      rw [← List.append_assoc] at hahead
      rcases ih h with ⟨rfl, g₃, hg₃, rfl⟩ | ⟨body, others, hnext, hothers, rfl⟩
      · refine ⟨_, [raw], hahead, .last (hg₁.append hg₂) hraw hg₃, ?_⟩
        simp [mergedItems]
      · cases hnext with
        | next hg₃ =>
          refine ⟨_, raw :: others, hahead, .more (hg₁.append hg₂) hraw hg₃ hothers, ?_⟩
          simp [mergedItems]
    rw [readItems] at h
    split at h
    · cases h
    · rename_i hskip
      obtain ⟨rfl, rfl⟩ := Prod.mk.inj (Except.ok.inj h)
      exact .inl ⟨rfl, g, hg, by rw [hs, hskip]⟩
    rename_i c r _ hskip
    rw [hskip] at hs
    split at h
    · rename_i hempty
      split at h
      · cases h
      rename_i v s' hvalue
      have hahead : Ahead acc.isEmpty s (g ++ c :: r) := by
        rw [hempty, hs]
        exact .first _
      obtain rfl := List.isEmpty_iff.1 hempty
      exact .inr (hstep hvalue hg hahead h)
    rename_i hmore
    split at h
    · cases h
    rename_i hcomma
    obtain ⟨g', hg', hs'⟩ := gap_skipSpace r
    split at h
    · cases h
    · cases h
    split at h
    · cases h
    rename_i v s' hvalue
    have hahead : Ahead acc.isEmpty s (g' ++ skipSpace r) := by
      rw [Bool.eq_false_iff.2 hmore, hs, Classical.not_not.1 hcomma, ← hs']
      exact .next hg _
    exact .inr (hstep hvalue hg' hahead h)

/-- A value that is read is a scalar, or a list or an object whose parts are read. -/
theorem readValue_cases {n : Nat} {s rest : List Char} {v : Json}
    (h : readValue n s = .ok (v, rest)) :
    ∃ g t, IsGap g ∧ s = g ++ t ∧
      (ScalarAt v t rest ∧ v.merged = v ∨
        ∃ k r, n = k + 1 ∧
          ((∃ items, t = '[' :: r ∧ v = .array items ∧
              readItems (readValue k) (r.length + 1) [] r = .ok (items, rest)) ∨
            ∃ members, t = '\x7b' :: r ∧ v = .object (Record.ofList members) ∧
              readMembers (readValue k) (r.length + 1) [] r = .ok (members, rest))) := by
  obtain ⟨g, hg, hs⟩ := gap_skipSpace s
  refine ⟨g, skipSpace s, hg, hs, ?_⟩
  rw [readValue] at h
  split at h
  · cases h
  · rename_i hskip
    obtain ⟨rfl, hr⟩ := readWord_ok h
    rw [hskip, hr]
    exact .inl ⟨.null rest, rfl⟩
  · rename_i hskip
    obtain ⟨rfl, hr⟩ := readWord_ok h
    rw [hskip, hr]
    exact .inl ⟨.truth rest, rfl⟩
  · rename_i hskip
    obtain ⟨rfl, hr⟩ := readWord_ok h
    rw [hskip, hr]
    exact .inl ⟨.falsity rest, rfl⟩
  · rename_i r hskip
    obtain ⟨⟨x, r'⟩, hnumber, heq⟩ := map_eq_ok.1 h
    obtain ⟨rfl, rfl⟩ := Prod.mk.inj heq
    rw [hskip]
    exact .inl ⟨.negative hnumber, rfl⟩
  · rename_i r hskip
    obtain ⟨⟨x, r'⟩, htext, heq⟩ := map_eq_ok.1 h
    obtain ⟨rfl, rfl⟩ := Prod.mk.inj heq
    obtain ⟨ts, hspelled, rfl⟩ := readText_ok htext
    rw [hskip]
    exact .inl ⟨.text hspelled _, rfl⟩
  · rename_i r hskip
    cases n with
    | zero => cases h
    | succ k =>
      obtain ⟨⟨items, r'⟩, hitems, heq⟩ := map_eq_ok.1 h
      obtain ⟨rfl, rfl⟩ := Prod.mk.inj heq
      exact .inr ⟨k, r, rfl, .inl ⟨items, hskip, rfl, hitems⟩⟩
  · rename_i r hskip
    cases n with
    | zero => cases h
    | succ k =>
      obtain ⟨⟨members, r'⟩, hmembers, heq⟩ := map_eq_ok.1 h
      obtain ⟨rfl, rfl⟩ := Prod.mk.inj heq
      exact .inr ⟨k, r, rfl, .inr ⟨members, hskip, rfl, hmembers⟩⟩
  · rename_i c r _ _ _ _ _ _ _ hskip
    split at h
    · rename_i hdigit
      obtain ⟨⟨x, r'⟩, hnumber, heq⟩ := map_eq_ok.1 h
      obtain ⟨rfl, rfl⟩ := Prod.mk.inj heq
      rw [hskip]
      exact .inl ⟨.number hdigit hnumber, rfl⟩
    · cases h

theorem finds_value (n : Nat) : Finds (ValueAt n) (readValue n) := by
  induction n with
  | zero =>
    intro s v rest h
    obtain ⟨g, t, hg, hs, ⟨hv, hm⟩ | ⟨k, r, hk, -⟩⟩ := readValue_cases h
    · exact ⟨v, g, t, hg, hs, hv, hm.symm⟩
    · cases hk
  | succ n ih =>
    intro s v rest h
    obtain ⟨g, t, hg, hs, ⟨hv, hm⟩ | ⟨k, r, hk, hcompound⟩⟩ := readValue_cases h
    · exact ⟨v, g, t, hg, hs, .inl hv, hm.symm⟩
    obtain rfl := Nat.succ.inj hk
    rcases hcompound with ⟨items, rfl, rfl, hread⟩ | ⟨members, rfl, rfl, hread⟩
    · rcases readItems_ok ih hread with ⟨rfl, g', hg', rfl⟩ | ⟨body, raw, hahead, hraw, rfl⟩
      · exact ⟨_, g, _, hg, hs, .inr (.noItems hg' rest), rfl⟩
      · cases hahead
        exact ⟨_, g, _, hg, hs, .inr (.items hraw), rfl⟩
    · rcases readMembers_ok ih hread with ⟨rfl, g', hg', rfl⟩ | ⟨body, raw, hahead, hraw, rfl⟩
      · exact ⟨_, g, _, hg, hs, .inr (.noMembers hg' rest), rfl⟩
      · cases hahead
        exact ⟨_, g, _, hg, hs, .inr (.members hraw), rfl⟩

/-- A text that is read is a document, and what is read has its members put together. -/
theorem read_document {s : List Char} {v : Json} (h : read s = .ok v) :
    ∃ raw, Document raw s ∧ v = raw.merged := by
  rw [read] at h
  split at h
  · cases h
  rename_i v' rest hvalue
  obtain ⟨raw, g, t, hg, rfl, hraw, rfl⟩ := finds_value depthLimit hvalue
  obtain ⟨g', hg', hrest⟩ := gap_skipSpace rest
  rw [readEnd] at h
  split at h
  · rename_i hskip
    rw [hskip, List.append_nil] at hrest
    obtain rfl := Except.ok.inj h
    exact ⟨raw, ⟨_, g, t, rest, hg, rfl, hraw, hrest ▸ hg'⟩, rfl⟩
  · cases h

end

end Tabular.Json
