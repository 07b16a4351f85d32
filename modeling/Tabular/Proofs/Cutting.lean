import Mathlib.Data.List.Basic
import Tabular.Sql.Keyword
import Tabular.Statement.Identifier

/-!
# Cutting a text into tokens

A token is cut off from the front of a text if what follows it cannot belong to
it. Tokens laid one behind the other in this way are those of their text.
-/

set_option autoImplicit false

namespace Tabular.Sql

def Token.written (t : Token) : List Char := t.lead ++ t.raw

def Token.finish : Token := ⟨[], [], .finish⟩

def Token.Before (t : Token) (rest : List Char) : Prop :=
  Lexer.leading ((t.written ++ rest).length + 1) [] (t.written ++ rest) =
      (t.lead, t.raw ++ rest) ∧
    Lexer.token (t.raw ++ rest) = (t.raw, t.lexeme) ∧
    t.raw ≠ [] ∧ t.lexeme ≠ .finish ∧ t.lexeme ≠ .illegal

namespace Lexer

open Tabular.Decimal

theorem tokens_before {t : Token} {rest : List Char} (h : t.Before rest) (fuel : Nat) :
    tokens (fuel + 1) (t.written ++ rest) = t :: tokens fuel rest := by
  obtain ⟨hl, ht, _, hf, hi⟩ := h
  rw [tokens, hl]
  simp only [ht, hf, hi, or_self, if_false, List.drop_left]

def opens (c : Char) : Bool :=
  !isBlank c && c ≠ '-' && c ≠ '/' && c ≠ '\ufeff' && c.toNat ≠ 11

theorem leading_opens {c : Char} (h : opens c) (fuel : Nat) (lead s : List Char) :
    leading (fuel + 1) lead (c :: s) = (lead.reverse, c :: s) := by
  simp only [opens, Bool.and_eq_true, Bool.not_eq_true', decide_eq_true_eq, ne_eq] at h
  obtain ⟨⟨⟨⟨hb, hd⟩, hs⟩, hf⟩, h11⟩ := h
  unfold leading
  split
  all_goals simp_all

theorem leading_space {c : Char} (h : opens c) (fuel : Nat) (s : List Char) :
    leading (fuel + 2) [] (' ' :: c :: s) = ([' '], c :: s) := by
  have hs : leading (fuel + 2) [] (' ' :: c :: s) = leading (fuel + 1) [' '] (c :: s) := rfl
  rw [hs, leading_opens h]
  rfl

theorem afterBlock_suffix (s : List Char) : afterBlock s <:+ s := by
  fun_induction afterBlock s with
  | case1 => exact List.suffix_rfl
  | case2 s => exact ⟨['*', '/'], rfl⟩
  | case3 c s _ ih => exact ih.trans (List.suffix_cons c s)

/-- Nothing of a text is lost in front of its first token. -/
theorem leading_append (fuel : Nat) (lead s : List Char) :
    (leading fuel lead s).1 ++ (leading fuel lead s).2 = lead.reverse ++ s := by
  fun_induction leading fuel lead s with
  | case1 lead s => rfl
  | case2 fuel lead r comment ih =>
    rw [ih]
    simp [comment]
  | case3 fuel lead c r rest comment ih =>
    obtain ⟨before, hb⟩ : rest <:+ '/' :: '*' :: c :: r :=
      (afterBlock_suffix (c :: r)).trans ⟨['/', '*'], rfl⟩
    have hc : comment = before := by simp [comment, ← hb]
    rw [ih, hc]
    simp [← hb]
  | case4 fuel lead r ih => simp [ih]
  | case5 fuel lead c r _ _ _ _ ih => simp [ih]
  | case6 => rfl
  | case7 => rfl

/-- A byte order mark is never the beginning of a token. -/
theorem leading_mark (fuel : Nat) (lead s : List Char) (h : s.length < fuel) :
    (leading fuel lead s).2.head? ≠ some '\ufeff' := by
  fun_induction leading fuel lead s with
  | case1 => omega
  | case2 fuel lead r comment ih =>
    have hd := (List.dropWhile_suffix (l := r) (· ≠ '\n')).length_le
    simp only [List.length_cons] at h
    exact ih (by omega)
  | case3 fuel lead c r rest comment ih =>
    have hd : rest.length ≤ (c :: r).length := (afterBlock_suffix (c :: r)).length_le
    simp only [List.length_cons] at h hd
    exact ih (by omega)
  | case4 fuel lead r ih =>
    simp only [List.length_cons] at h
    exact ih (by omega)
  | case5 fuel lead c r _ _ _ _ ih =>
    simp only [List.length_cons] at h
    exact ih (by omega)
  | case6 fuel lead c r _ _ hf _ => simpa using hf
  | case7 => simp

def Ends (rest : List Char) : Prop :=
  ∀ c ∈ rest.head?, isNameChar c = false ∧ c ∉ ['\'', '"', '\x60', '[']

def beginsWord (c : Char) : Bool :=
  isNameChar c && !isDigit c && c ≠ '$' && c ≠ '\ufeff'

def isWord : List Char → Bool
  | [] => false
  | c :: cs => beginsWord c && cs.all isNameChar

theorem opens_of_nameChar {c : Char} (h : isNameChar c) (hf : c ≠ '\ufeff') : opens c := by
  have hb : isBlank c = false := by
    refine Bool.eq_false_iff.2 fun hb => ?_
    simp only [isBlank, Bool.or_eq_true, decide_eq_true_eq] at hb
    rcases hb with (((rfl | rfl) | rfl) | rfl) | rfl <;> exact absurd h (by decide)
  have hd : c ≠ '-' := by rintro rfl; exact absurd h (by decide)
  have hs : c ≠ '/' := by rintro rfl; exact absurd h (by decide)
  have h11 : c.toNat ≠ 11 := by
    intro hc
    obtain rfl : c = '\x0b' := Char.toNat_inj.1 hc
    exact absurd h (by decide)
  simp [opens, hb, hd, hs, h11, hf]

theorem takeWhile_nameChar {w rest : List Char} (h : ∀ c ∈ w, isNameChar c) (hr : Ends rest) :
    (w ++ rest).takeWhile isNameChar = w := by
  rw [List.takeWhile_append_of_pos h]
  cases rest with
  | nil => simp
  | cons c cs => simp [(hr c rfl).1]

theorem token_word {w rest : List Char} (h : isWord w) (hr : Ends rest) :
    token (w ++ rest) = (w, .word) := by
  cases w with
  | nil => simp [isWord] at h
  | cons c cs =>
    simp only [isWord, beginsWord, Bool.and_eq_true, Bool.not_eq_true', decide_eq_true_eq,
      List.all_eq_true] at h
    obtain ⟨⟨⟨⟨hc, hd⟩, h36⟩, _⟩, hs⟩ := h
    have hne (d : Char) (hd : isNameChar d = false) : c ≠ d := by
      rintro rfl
      rw [hc] at hd
      cases hd
    have hx : (cs ++ rest).head? ≠ some '\'' := by
      cases cs with
      | nil => exact fun hq => (hr _ hq).2 (by simp)
      | cons d ds =>
        intro hq
        obtain rfl : d = '\'' := by simpa using hq
        exact absurd (hs '\'' (by simp)) (by decide)
    have h0 : c.toNat ≠ 0 := by
      intro h0
      obtain rfl : c = '\x00' := Char.toNat_inj.1 h0
      exact absurd hc (by decide)
    have ht := takeWhile_nameChar (w := c :: cs) (by simpa [hc] using hs) hr
    rw [List.cons_append] at ht ⊢
    simp only [token, h0, hne '\'' (by decide), hne '"' (by decide), hne '\x60' (by decide),
      hne '[' (by decide), hd, hne '.' (by decide), hne '?' (by decide), h36, hne '@' (by decide),
      hne ':' (by decide), hne '#' (by decide), hx, hc, ht, if_true, if_false, decide_false,
      Bool.false_and, Bool.or_self, Bool.and_false, Bool.false_eq_true]

theorem nameChar_of_upper {c : Char} (h : c.isUpper) : isNameChar c := by
  have hname : isNameChar c = (c.isUpper || c.isLower || c.isDigit || c = '_' || c = '$' ||
    0x80 ≤ c.toNat) := rfl
  simp [hname, h]

theorem nameChar_of_lower {c : Char} (h : c.isLower) : isNameChar c := by
  have hname : isNameChar c = (c.isUpper || c.isLower || c.isDigit || c = '_' || c = '$' ||
    0x80 ≤ c.toNat) := rfl
  simp [hname, h]

theorem nameChar_of_digit {c : Char} (h : isDigit c) : isNameChar c := by
  have hc : '0' ≤ c ∧ c ≤ '9' := by
    by_contra hn
    simp [isDigit, digit?, hn] at h
  have hd : c.isDigit := by
    simp only [Char.isDigit, Bool.and_eq_true, decide_eq_true_eq]
    exact hc
  simp [isNameChar, Char.isAlphanum, hd]

theorem token_parameter {rest : List Char} (h : Ends rest) :
    token ('?' :: rest) = (['?'], .parameter 0) := by
  have hr : rest.takeWhile isDigit = [] := by
    cases rest with
    | nil => rfl
    | cons c cs =>
      have hd : isDigit c = false := by
        refine Bool.eq_false_iff.2 fun hd => ?_
        have hc := (h c rfl).1
        rw [nameChar_of_digit hd] at hc
        cases hc
      simp [hd]
  have ht : token ('?' :: rest) = ('?' :: rest.takeWhile isDigit, .parameter 0) := rfl
  rw [ht, hr]

theorem wellSeparated_digits {ds : List Char} (hd : ∀ c ∈ ds, isDigit c) :
    wellSeparated ds := by
  induction ds with
  | nil => rfl
  | cons c cs ih =>
    have hc : c ≠ '_' := by
      rintro rfl
      exact absurd (hd '_' (by simp)) (by decide)
    have hs := ih fun d h => hd d (by simp [h])
    cases cs with
    | nil => simp [wellSeparated]
    | cons d ds =>
      have hd' : d ≠ '_' := by
        rintro rfl
        exact absurd (hd '_' (by simp)) (by decide)
      rw [wellSeparated] <;> simp_all

theorem token_integer {ds : List Char} (hn : ds ≠ []) (hd : ∀ c ∈ ds, isDigit c) :
    token ds = (ds, .integer) := by
  have hp : ∀ c ∈ ds, isDigitPart c := fun c hc => by simp [isDigitPart, hd c hc]
  have hw := @List.takeWhile_append_of_pos _ isDigitPart ds [] hp
  have hr := @List.dropWhile_append_of_pos _ isDigitPart ds [] hp
  have hnum : number.decimal ds = (ds, .integer, true) := by
    simp only [List.append_nil, List.takeWhile_nil, List.dropWhile_nil] at hw hr
    simp [number.decimal, hw, hr, powerPart, wellSeparated_digits hd, wellSeparated]
  have hnumber : number ds = number.decimal ds := by
    unfold number
    split
    · rename_i x d r
      have hx : isDigit x := hd x (by simp)
      have h1 : x ≠ 'x' := by rintro rfl; exact absurd hx (by decide)
      have h2 : x ≠ 'X' := by rintro rfl; exact absurd hx (by decide)
      simp [h1, h2]
    · rfl
  cases ds with
  | nil => exact absurd rfl hn
  | cons c cs =>
    have hc := hd c (by simp)
    have hne (d : Char) (hd : isDigit d = false) : c ≠ d := by
      rintro rfl
      rw [hc] at hd
      cases hd
    have h0 : c.toNat ≠ 0 := by
      intro h0
      obtain rfl : c = '\x00' := Char.toNat_inj.1 h0
      exact absurd hc (by decide)
    simp [token, h0, hne '\'' (by decide), hne '"' (by decide), hne '\x60' (by decide),
      hne '[' (by decide), hc, numberToken, hnumber, hnum]

theorem quoted_cons_of_ne {q c : Char} (h : c ≠ q) (s : List Char) :
    quoted q (c :: s) = (quoted q s).map fun (cs, rest) => (c :: cs, rest) := by
  cases s <;> simp [quoted, h]

theorem quoted_doubled (q : Char) (s rest : List Char) (h : rest.head? ≠ some q) :
    quoted q (Text.doubled q s ++ q :: rest) = some (s, rest) := by
  induction s with
  | nil =>
    cases rest with
    | nil => simp [Text.doubled, quoted]
    | cons c cs =>
      have hc : c ≠ q := fun e => h (by simp [e])
      simp [Text.doubled, quoted, hc]
  | cons c cs ih =>
    by_cases hc : c = q
    · subst hc
      simp [Text.doubled, quoted, ih]
    · rw [Text.doubled, if_neg hc, List.cons_append, quoted_cons_of_ne hc, ih]
      rfl

theorem token_quoted (name rest : List Char) (h : rest.head? ≠ some '\x60') :
    token (Identifier.quotedChars name ++ rest) =
      (Identifier.quotedChars name, .name (String.ofList name) false) := by
  have hq := quoted_doubled '\x60' name rest h
  have hs : Identifier.quotedChars name ++ rest =
      '\x60' :: (Text.doubled '\x60' name ++ '\x60' :: rest) := by
    simp [Identifier.quotedChars]
  have hl : ('\x60' :: (Text.doubled '\x60' name ++ '\x60' :: rest)).length - rest.length =
      (Identifier.quotedChars name).length := by
    simp [Identifier.quotedChars]
    omega
  have ht (s : List Char) (cs r : List Char) (h : quoted '\x60' s = some (cs, r)) :
      token ('\x60' :: s) = (('\x60' :: s).take (('\x60' :: s).length - r.length),
        .name (String.ofList cs) false) := by
    rw [token]
    simp only [h]
    rfl
  rw [hs, ht _ _ _ hq, hl, ← hs, List.take_left]

theorem number_lexeme (s : List Char) : (number s).2.1 = .integer ∨ (number s).2.1 = .float := by
  have hd (s : List Char) :
      (number.decimal s).2.1 = .integer ∨ (number.decimal s).2.1 = .float := by
    simp only [number.decimal]
    exact (ite_eq_or_eq _ _ _).imp id id
  unfold number
  split
  · split
    · exact .inl rfl
    · exact hd _
  · exact hd _

theorem numberToken_lexeme (s : List Char) :
    (numberToken s).2 = .integer ∨ (numberToken s).2 = .float ∨ (numberToken s).2 = .illegal := by
  have h := number_lexeme s
  simp only [numberToken]
  split
  · split
    · exact h.imp id .inl
    · exact .inr (.inr rfl)
  · exact .inr (.inr rfl)

theorem namedParameter_lexeme (fuel n : Nat) (acc s : List Char) :
    (namedParameter fuel n acc s).2 = .illegal ∨
      (namedParameter fuel n acc s).2 = .parameter 0 := by
  induction fuel generalizing n acc s with
  | zero => exact .inl rfl
  | succ fuel ih =>
    unfold namedParameter
    extract_lets done
    have hdone : done.2 = .illegal ∨ done.2 = .parameter 0 := ite_eq_or_eq _ _ _
    split
    · exact ih _ _ _
    · split
      · exact hdone
      · extract_lets inner
        split
        · exact .inr rfl
        · exact .inl rfl
    · split
      · exact ih _ _ _
      · exact hdone
    · exact hdone

theorem blobToken_lexeme (s : List Char) :
    (blobToken s).2 = .illegal ∨ ∃ bs, (blobToken s).2 = .blob bs := by
  unfold blobToken
  simp only
  split
  · exact .inr ⟨_, rfl⟩
  · exact .inl rfl

inductive Shown (c : Char) (r : List Char) : List Char × Lexeme → Prop
  | quoted {n x : List Char} (raw : List Char) (double : Bool) (hc : c ∈ ['"', '\x60'])
      (h : quoted c r = some (n, x)) :
      Shown c r (raw, .name (String.ofList n) double)
  | bracketed (raw : List Char) (h : c = '[') :
      Shown c r (raw, .name (String.ofList (r.takeWhile (· ≠ ']'))) false)
  | word (hc : isNameChar c) (hd : isDigit c = false) (h36 : c ≠ '$') :
      Shown c r ((c :: r).takeWhile isNameChar, .word)
  | other {t : List Char × Lexeme} (hw : t.2 ≠ .word) (hn : ∀ n d, t.2 ≠ .name n d) : Shown c r t

theorem Shown.ite {c : Char} {r : List Char} {p : Prop} [Decidable p] {t u : List Char × Lexeme}
    (ht : p → Shown c r t) (hu : ¬p → Shown c r u) : Shown c r (if p then t else u) := by
  split
  · exact ht ‹_›
  · exact hu ‹_›

theorem token_shown (c : Char) (r : List Char) : Shown c r (token (c :: r)) := by
  have h1 := numberToken_lexeme (c :: r)
  have h2 := namedParameter_lexeme (r.length + 1) 0 [c] r
  have h3 := blobToken_lexeme (r.drop 1)
  rw [token]
  generalize numberToken (c :: r) = t1 at h1
  generalize namedParameter (r.length + 1) 0 [c] r = t2 at h2
  generalize blobToken (r.drop 1) = t3 at h3
  obtain ⟨raw3, lexeme3⟩ := t3
  refine .ite (fun _ => .other (by simp) (by simp)) fun _ => ?_
  refine .ite (fun _ => ?_) fun _ => ?_
  · split <;> exact .other (by simp) (by simp)
  refine .ite (fun hc => ?_) fun _ => ?_
  · split
    · exact .quoted _ _ (by simp [hc]) ‹_›
    · exact .other (by simp) (by simp)
  refine .ite (fun hc => ?_) fun _ => ?_
  · split
    · exact .quoted _ _ (by simp [hc]) ‹_›
    · exact .other (by simp) (by simp)
  refine .ite (fun hc => ?_) fun _ => ?_
  · exact .ite (fun _ => .bracketed _ hc) fun _ => .other (by simp) (by simp)
  refine .ite (fun _ => ?_) fun hd => ?_
  · refine .other ?_ fun n d => ?_ <;> rcases h1 with h | h | h <;> simp [h]
  refine .ite (fun _ => .other (by simp) (by simp)) fun _ => ?_
  refine .ite (fun _ => ?_) fun hp => ?_
  · refine .other ?_ fun n d => ?_ <;> rcases h2 with h | h <;> simp [h]
  refine .ite (fun _ => ?_) fun _ => ?_
  · refine .other ?_ fun n d => ?_ <;> rcases h3 with h | ⟨bs, h⟩ <;> simp_all
  refine .ite (fun hn => ?_) fun _ => ?_
  · simp only [Bool.or_eq_true, not_or, decide_eq_true_eq, Bool.not_eq_true] at hd hp
    exact .word hn hd.1 hp.1.1.1
  · split <;> exact .other (by simp) (by simp)

/-- What is quoted cannot be a text that begins with the opening quote itself and
ends before the closing one: each quote in it would have to stand there twice. -/
theorem quoted_ne_self {q : Char} {rest : List Char} (hr : rest.head? ≠ some q) (x : List Char) :
    ∀ (n : List Char) (k : Nat), quoted q (n ++ rest) ≠ some (List.replicate (k + 1) q ++ n, x)
  | [], k => by
    cases rest with
    | nil => simp [quoted]
    | cons c cs =>
      have hc : c ≠ q := fun e => hr (by simp [e])
      simp [quoted_cons_of_ne hc, List.replicate_succ, hc]
  | [d], k => by
    by_cases hd : d = q
    · subst hd
      cases rest with
      | nil => simp [quoted]
      | cons c cs =>
        have hc : c ≠ d := fun e => hr (by simp [e])
        simp [quoted, hc]
    · simp [quoted_cons_of_ne hd, List.replicate_succ, hd]
  | d :: e :: n, k => by
    by_cases hd : d = q
    · subst hd
      by_cases he : e = d
      · subst he
        have ih := quoted_ne_self hr x n (k + 1)
        intro h
        simp only [List.cons_append, quoted, if_true, Option.map_eq_some_iff, Prod.exists] at h
        obtain ⟨cs, y, hq, h⟩ := h
        refine ih ?_
        rw [hq]
        simp only [Prod.mk.injEq, List.replicate_succ, List.cons_append, List.cons.injEq,
          true_and] at h
        obtain ⟨hcs, rfl⟩ := h
        rw [hcs, List.append_cons, ← List.replicate_succ', List.append_cons,
          ← List.replicate_succ']
      · simp [quoted, he]
    · simp [quoted_cons_of_ne hd, List.replicate_succ, hd]

end Lexer
end Tabular.Sql
