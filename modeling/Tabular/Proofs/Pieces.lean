import Mathlib.Data.List.Forall2
import Tabular.Proofs.Cutting

/-!
# Texts with columns written as they are

A statement text is made of fixed tokens and of columns that are written without
quotes. Each column is one name in the tokens of the text if and only if all the
names are bare words.
-/

set_option autoImplicit false

namespace Tabular.Sql

open Lexer

def isBare (excluded : List String) (name : String) : Bool :=
  isWord name.toList && !excluded.contains (String.ofList (name.toList.map Char.toUpper))

def keywords : List String := reservedWords ++ joinWords ++ softWords

def isOrdinary (name : String) : Bool :=
  Identifier.isPlain name && !keywords.contains (String.ofList (name.toList.map Char.toUpper))

theorem nameChar_of_letter {c : Char} (h : Identifier.isLetter c) : isNameChar c := by
  simp only [Identifier.isLetter, Bool.or_eq_true, Bool.and_eq_true, decide_eq_true_eq] at h
  rcases h with (h | h) | rfl
  · exact nameChar_of_upper (decide_eq_true h)
  · exact nameChar_of_lower (Bool.and_eq_true_iff.2 ⟨decide_eq_true h.1, decide_eq_true h.2⟩)
  · rfl

theorem beginsWord_of_letter {c : Char} (h : Identifier.isLetter c) : beginsWord c := by
  have hd : Decimal.isDigit c = false := by
    refine Bool.eq_false_iff.2 fun hd => ?_
    have hc : '0' ≤ c ∧ c ≤ '9' := by simpa [Decimal.isDigit, Decimal.digit?] using hd
    simp only [Identifier.isLetter, Bool.or_eq_true, Bool.and_eq_true, decide_eq_true_eq] at h
    rcases h with (h | h) | rfl
    · exact absurd (Char.le_trans h.1 hc.2) (by decide)
    · exact absurd (Char.le_trans h.1 hc.2) (by decide)
    · exact absurd hc (by decide)
  have h36 : c ≠ '$' := by rintro rfl; exact absurd h (by decide)
  have hf : c ≠ '\ufeff' := by rintro rfl; exact absurd h (by decide)
  simp [beginsWord, nameChar_of_letter h, hd, h36, hf]

theorem nameChar_of_plain {c : Char} (h : Identifier.isLetter c || Identifier.isDigit c) :
    isNameChar c := by
  rcases Bool.or_eq_true_iff.1 h with h | h
  · exact nameChar_of_letter h
  · refine nameChar_of_digit ?_
    simpa [Decimal.isDigit, Decimal.digit?, Identifier.isDigit] using h

theorem isWord_of_plain {name : String} (h : Identifier.isPlain name) : isWord name.toList := by
  rw [Identifier.isPlain] at h
  cases hs : name.toList with
  | nil => simp [hs] at h
  | cons c cs =>
    simp only [hs, Bool.and_eq_true, List.all_eq_true] at h
    simp only [isWord, Bool.and_eq_true, List.all_eq_true]
    exact ⟨beginsWord_of_letter h.1, fun d hd => nameChar_of_plain (h.2 d hd)⟩

theorem bare_of_ordinary {excluded : List String} (he : excluded ⊆ keywords) {name : String}
    (h : isOrdinary name) : isBare excluded name := by
  simp only [isOrdinary, Bool.and_eq_true, Bool.not_eq_true'] at h
  obtain ⟨hp, hk⟩ := h
  have hx : excluded.contains (String.ofList (name.toList.map Char.toUpper)) = false := by
    refine Bool.eq_false_iff.2 fun hx => ?_
    have hc := List.contains_iff_mem.2 (he (List.contains_iff_mem.1 hx))
    rw [hk] at hc
    cases hc
  rw [isBare, hx, isWord_of_plain hp]
  rfl

inductive Piece where
  | token (t : Token)
  | column (excluded : List String) (gap : List Char) (name : String)

namespace Piece

def text : Piece → List Char
  | token t => t.written
  | column _ gap name => gap ++ name.toList

def toToken : Piece → Token
  | token t => t
  | column _ gap name => ⟨gap, name.toList, .word⟩

def Plain : Piece → Prop
  | token _ => True
  | column excluded _ name => isBare excluded name

instance (p : Piece) : Decidable p.Plain :=
  match p with
  | token _ => .isTrue trivial
  | column excluded _ name => inferInstanceAs (Decidable (isBare excluded name = true))

def Fits : Piece → Token → Prop
  | token t, u => u = t
  | column excluded gap name, u => u.lead = gap ∧ u.name? excluded = some name

def Firm (p : Piece) (rest : List Char) : Prop :=
  match p with
  | token t => t.Before rest
  | column _ gap _ => (gap = [] ∨ gap = [' ']) ∧ Ends rest

end Piece

def pieceText (ps : List Piece) : List Char := ps.flatMap Piece.text

def Sturdy (rest : List Char) : List Piece → Prop
  | [] => True
  | p :: ps => p.Firm (pieceText ps ++ rest) ∧ Sturdy rest ps

theorem pieceText_cons (p : Piece) (ps : List Piece) :
    pieceText (p :: ps) = p.text ++ pieceText ps := List.flatMap_cons

theorem pieceText_append (ps qs : List Piece) :
    pieceText (ps ++ qs) = pieceText ps ++ pieceText qs := List.flatMap_append

theorem sturdy_append (rest : List Char) (ps qs : List Piece) :
    Sturdy rest (ps ++ qs) ↔ Sturdy (pieceText qs ++ rest) ps ∧ Sturdy rest qs := by
  induction ps with
  | nil => simp [Sturdy]
  | cons p ps ih =>
    rw [List.cons_append, Sturdy, Sturdy, ih, pieceText_append, List.append_assoc, and_assoc]

theorem word_before {w gap rest : List Char} (h : isWord w) (hg : gap = [] ∨ gap = [' '])
    (hr : Ends rest) : (⟨gap, w, .word⟩ : Token).Before rest := by
  cases w with
  | nil => simp [isWord] at h
  | cons c cs =>
    have hc : opens c := by
      simp only [isWord, beginsWord, Bool.and_eq_true, decide_eq_true_eq] at h
      exact opens_of_nameChar h.1.1.1.1 h.1.2
    refine ⟨?_, token_word h hr, by simp, by simp, by simp⟩
    rcases hg with rfl | rfl
    · exact leading_opens hc _ [] _
    · exact leading_space hc _ _

theorem toToken_before {p : Piece} {rest : List Char} (h : p.Firm rest) (hp : p.Plain) :
    p.toToken.Before rest ∧ p.toToken.written = p.text := by
  cases p with
  | token t => exact ⟨h, rfl⟩
  | column excluded gap name =>
    simp only [Piece.Plain, isBare, Bool.and_eq_true] at hp
    exact ⟨word_before hp.1 h.1 h.2, rfl⟩

theorem tokens_pieces {ps : List Piece} (h : Sturdy [] ps) (hp : ∀ p ∈ ps, p.Plain) :
    ∀ {fuel : Nat}, (pieceText ps).length < fuel →
      tokens fuel (pieceText ps) = ps.map Piece.toToken ++ [.finish] := by
  induction ps with
  | nil =>
    intro fuel hn
    obtain ⟨n, rfl⟩ : ∃ n, fuel = n + 1 := ⟨fuel - 1, by omega⟩
    rfl
  | cons p ps ih =>
    intro fuel hn
    obtain ⟨n, rfl⟩ : ∃ n, fuel = n + 1 := ⟨fuel - 1, by omega⟩
    have hfirm : p.Firm (pieceText ps) := by simpa using h.1
    obtain ⟨hb, hw⟩ := toToken_before hfirm (hp p (by simp))
    have hr : 0 < p.toToken.raw.length := List.length_pos_iff.2 hb.2.2.1
    have hl : p.toToken.raw.length ≤ p.text.length := by simp [← hw, Token.written]
    rw [pieceText_cons, List.length_append] at hn
    rw [pieceText_cons, ← hw, tokens_before hb, ih h.2 (fun q hq => hp q (by simp [hq])) (by omega)]
    rfl

theorem append_ne_cons_append {c : Char} {rest : List Char} (hr : rest.head? ≠ some c) :
    ∀ n x : List Char, n ++ rest ≠ c :: n ++ x
  | [], x => by
    rintro rfl
    simp at hr
  | d :: n, x => by
    intro h
    simp only [List.cons_append, List.cons.injEq] at h
    obtain ⟨rfl, h⟩ := h
    exact append_ne_cons_append hr n x h

/-- A quoted name is never the text with which its quotation begins. -/
theorem not_quoted_first {q : Char} {name rest : List Char} (hr : Ends rest)
    (hq : q ∈ ['\'', '"', '\x60', '[']) {s : List Char} (hs : name ++ rest = q :: s) :
    (∀ x, quoted q s ≠ some (name, x)) ∧ (q = '[' → s.takeWhile (· ≠ ']') ≠ name) := by
  have hne : rest.head? ≠ some q := fun h => (hr q h).2 hq
  cases name with
  | nil => exact absurd (congrArg List.head? hs) hne
  | cons c n =>
    obtain ⟨rfl, rfl⟩ : c = q ∧ n ++ rest = s := by simpa using hs
    refine ⟨fun x => quoted_ne_self hne x n 0, fun _ h => ?_⟩
    refine append_ne_cons_append hne n ((n ++ rest).dropWhile (· ≠ ']')) ?_
    conv_lhs => rw [← List.takeWhile_append_dropWhile (p := (· ≠ ']')) (l := n ++ rest), h]

/-- If the first token of a text denotes the name with which the text begins, it is
that name, written as a word. -/
theorem isBare_of_first {name : String} {rest : List Char} {t : Token} {excluded : List String}
    (hm : (name.toList ++ rest).head? ≠ some '\ufeff') (hr : Ends rest)
    (ht : token (name.toList ++ rest) = (t.raw, t.lexeme)) (hn : t.name? excluded = some name) :
    isBare excluded name ∧ t.raw = name.toList ∧ t.lexeme = .word := by
  cases hs : name.toList ++ rest with
  | nil =>
    rw [hs] at ht
    have hf : t.lexeme = .finish := (congrArg Prod.snd ht).symm
    simp [Token.name?, hf] at hn
  | cons c s =>
    have hk := token_shown c s
    rw [← hs, ht] at hk
    generalize hl : t.lexeme = l at hk
    generalize hw : t.raw = raw at hk
    cases hk with
    | quoted raw double hc hq =>
      obtain rfl : String.ofList _ = name := by simpa [Token.name?, hl] using hn
      rw [String.toList_ofList] at hs
      have hc : c ∈ ['\'', '"', '\x60', '['] := by
        simp only [List.mem_cons, List.not_mem_nil, or_false] at hc ⊢
        exact .inr (hc.imp_right .inl)
      exact absurd hq ((not_quoted_first hr hc hs).1 _)
    | bracketed raw hc =>
      obtain hname : String.ofList (s.takeWhile (· ≠ ']')) = name := by
        simpa [Token.name?, hl] using hn
      have htake := congrArg String.toList hname
      rw [String.toList_ofList] at htake
      exact absurd htake ((not_quoted_first hr (by simp [hc]) hs).2 hc)
    | word hc hd h36 =>
      have hx : excluded.contains t.key = false ∧ t.text = name := by
        simpa [Token.name?, hl] using hn
      have hname : t.raw = name.toList := by
        rw [← hx.2, Token.text, String.toList_ofList]
      have hkey : t.key = String.ofList (name.toList.map Char.toUpper) := by
        simp [Token.key, hl, hname]
      have hc36 : c ≠ '\ufeff' := by simpa [hs] using hm
      have hname' : (c :: s).takeWhile isNameChar = name.toList := by rw [← hw, hname]
      have hword : isWord name.toList := by
        rw [← hname', List.takeWhile_cons_of_pos hc]
        simp [isWord, beginsWord, hc, hd, h36, hc36, List.all_takeWhile]
      rw [hkey] at hx
      exact ⟨by rw [isBare, hword, hx.1]; rfl, hname', rfl⟩
    | other hw' hn' =>
      rw [Token.name?, hl] at hn
      cases l with
      | word => exact absurd rfl hw'
      | name n d => exact absurd rfl (hn' n d)
      | _ => cases hn

/-- A column whose place is taken by one name that denotes it has a bare name. -/
theorem plain_of_first {excluded : List String} {gap rest : List Char} {name : String}
    {fuel : Nat} {t : Token} {ts : List Token} (hr : Ends rest)
    (ht : tokens (fuel + 1) (gap ++ name.toList ++ rest) = t :: ts)
    (hf : (Piece.column excluded gap name).Fits t) :
    (Piece.column excluded gap name).Plain ∧ (Piece.column excluded gap name).toToken = t := by
  obtain ⟨hlead, hname⟩ := hf
  rw [tokens] at ht
  generalize hs : gap ++ name.toList ++ rest = s at ht
  have happ := leading_append (s.length + 1) [] s
  have hmark := leading_mark (s.length + 1) [] s (by omega)
  generalize leading (s.length + 1) [] s = ls at ht happ hmark
  obtain ⟨lead, s'⟩ := ls
  have ht1 : (⟨lead, (token s').1, (token s').2⟩ : Token) = t := by
    simp only at ht
    split at ht <;> exact (List.cons.inj ht).1
  obtain rfl : lead = gap := by rw [← hlead, ← ht1]
  obtain rfl : s' = name.toList ++ rest := by
    rw [← hs, List.reverse_nil, List.nil_append, List.append_assoc] at happ
    exact List.append_cancel_left happ
  obtain ⟨hb, hraw, hlex⟩ := isBare_of_first hmark hr (t := t) (by rw [← ht1]) hname
  refine ⟨hb, ?_⟩
  rw [Piece.toToken, ← hraw, ← hlex, ← hlead]

theorem plain_of_fits {ps : List Piece} (h : Sturdy [] ps) :
    ∀ {ts : List Token} {fuel : Nat}, List.Forall₂ Piece.Fits ps ts →
      tokens fuel (pieceText ps) = ts ++ [.finish] → ∀ p ∈ ps, p.Plain := by
  induction ps with
  | nil => simp
  | cons p ps ih =>
    intro ts fuel hf ht
    rcases hf with _ | ⟨hp, hf⟩
    rename_i u us
    have hfirm : p.Firm (pieceText ps) := by simpa using h.1
    cases fuel with
    | zero => simp [tokens] at ht
    | succ fuel =>
      rw [pieceText_cons, List.cons_append] at ht
      have hfirst : p.Plain ∧ p.toToken = u := by
        cases p with
        | token t => exact ⟨trivial, hp.symm⟩
        | column excluded gap name => exact plain_of_first hfirm.2 ht hp
      obtain ⟨hplain, rfl⟩ := hfirst
      obtain ⟨hb, hw⟩ := toToken_before hfirm hplain
      rw [← hw, tokens_before hb, List.cons.injEq] at ht
      intro q hq
      rcases List.mem_cons.1 hq with rfl | hq
      · exact hplain
      · exact ih h.2 hf ht.2 q hq

/-- The tokens of a text in pieces with bare names. -/
theorem tokensOf_pieces {s : String} {ps : List Piece} (hs : s.toList = pieceText ps)
    (h : Sturdy [] ps) (hp : ∀ p ∈ ps, p.Plain) :
    tokensOf s = ps.map Piece.toToken ++ [.finish] := by
  rw [tokensOf, hs, tokens_pieces h hp]
  rw [← hs, String.length_toList]
  exact Nat.lt_succ_self _

def Cuts (s : String) (ps : List Piece) : Prop :=
  ∃ ts, tokensOf s = ts ++ [.finish] ∧ List.Forall₂ Piece.Fits ps ts

theorem fits_toToken {p : Piece} (h : p.Plain) : p.Fits p.toToken := by
  cases p with
  | token t => rfl
  | column excluded gap name =>
    simp only [Piece.Plain, isBare, Bool.and_eq_true, Bool.not_eq_true'] at h
    have hk : (Piece.column excluded gap name).toToken.name? excluded =
        if excluded.contains (String.ofList (name.toList.map Char.toUpper)) then none
        else some (String.ofList name.toList) := rfl
    exact ⟨rfl, by rw [hk, h.2, String.ofList_toList]; rfl⟩

/-- Each column of a text is one name that denotes it exactly if all of them are bare. -/
theorem cuts_iff {s : String} {ps : List Piece} (hs : s.toList = pieceText ps)
    (h : Sturdy [] ps) : Cuts s ps ↔ ∀ p ∈ ps, p.Plain := by
  constructor
  · rintro ⟨ts, ht, hf⟩
    rw [tokensOf, hs] at ht
    exact plain_of_fits h hf ht
  · intro hp
    refine ⟨ps.map Piece.toToken, tokensOf_pieces hs h hp, ?_⟩
    rw [List.forall₂_map_right_iff]
    exact List.forall₂_same.2 fun p hq => fits_toToken (hp p hq)

end Tabular.Sql
