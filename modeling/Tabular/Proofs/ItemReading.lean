import Tabular.Proofs.FilterReading
import Tabular.Proofs.ListReading
import Tabular.Proofs.StatementText
import Tabular.Sql.Reader.Instruction

/-!
# Reading the items of statements back

Columns, assignments, values and sort keys are read as what they say, up to a comma or
the word that begins the next clause.
-/

set_option autoImplicit false

namespace Tabular

open Sql Sql.Reader

def endsTerm (t : Token) : Bool :=
  (binaryOp? t).isNone && !t.isAny suffixWords && !t.is "(" && !t.is "."

def endsColumn (t : Token) : Bool :=
  endsTerm t && !t.is "AS" && t.aliasName?.isNone && (t.lead = [] || t.lead = space)

def endsKey (t : Token) : Bool := !t.is "NULLS"

theorem loose_of_ends {t : Token} (h : endsTerm t) (rest : List Token) : Loose 1 (t :: rest) := by
  simp only [endsTerm, Bool.and_eq_true, Bool.not_eq_true', Option.isNone_iff_eq_none] at h
  exact loose_of_key h.1.1.1 h.1.1.2 1 rest

theorem term_column {d : Nat} {gap : List Char} {name : String} {t : Token} {rest : List Token}
    (hn : isBare termWords name) (ht : endsTerm t) :
    term (phrases d) 1 (⟨gap, name.toList, .word⟩ :: t :: rest) =
      .ok (.column none name .bare, t :: rest) := by
  have hloose := loose_of_ends ht rest
  simp only [endsTerm, Bool.and_eq_true, Bool.not_eq_true'] at ht
  have ho : operand (phrases d) (⟨gap, name.toList, .word⟩ :: t :: rest) =
      .ok (.column none (String.ofList name.toList) .bare, t :: rest) :=
    wordOperand_column (t := ⟨gap, name.toList, .word⟩) (Part.excludes_of_bare hn) ht.1.2 ht.2
  rw [String.ofList_toList] at ho
  rw [term_of_operand ho, climb_stops (hloose 1 (Nat.le_refl 1)) (Nat.lt_succ_self _)]

theorem objectName_bare {gap : List Char} {name : String} {rest : List Token}
    (h : reservedWords.contains (String.ofList (name.toList.map Char.toUpper)) = false) :
    objectName (.word gap name :: rest) = .ok (name, rest) := by
  have ho : (Token.word gap name).objectName? = some name := by
    have hk : (Token.word gap name).objectName? =
        if reservedWords.contains (String.ofList (name.toList.map Char.toUpper)) then none
        else some (String.ofList name.toList) := rfl
    rw [hk, h, String.ofList_toList]
    rfl
  have hf : first (.word gap name :: rest) = .word gap name := rfl
  rw [objectName, hf, ho]
  rfl

theorem objectName_reserved {name : String}
    (h : reservedWords.contains (String.ofList (name.toList.map Char.toUpper))) (gap : List Char)
    (rest : List Token) :
    ∃ e, objectName (.word gap name :: rest) = .error e := by
  have ho : (Token.word gap name).objectName? = none := if_pos h
  have hf : first (.word gap name :: rest) = .word gap name := rfl
  rw [objectName, hf, ho]
  exact ⟨_, rfl⟩

theorem gap_of_nameChar {c : Char} (h : Lexer.isNameChar c) :
    (Lexer.isBlank c || c.toNat = 11) = false := by
  refine Bool.eq_false_iff.2 fun hb => ?_
  simp only [Lexer.isBlank, Bool.or_eq_true, decide_eq_true_eq] at hb
  rcases hb with ((((rfl | rfl) | rfl) | rfl) | rfl) | hb
  iterate 5 exact absurd h (by decide)
  obtain rfl : c = '\x0b' := Char.toNat_inj.1 hb
  exact absurd h (by decide)

theorem dropWhile_append_of_head {p : Char → Bool} {s : List Char} (hs : s ≠ [])
    (h : ∀ c ∈ s.head?, p c = false) (gap : List Char) : (s ++ gap).dropWhile p = s ++ gap := by
  cases s with
  | nil => exact absurd rfl hs
  | cons c cs => exact List.dropWhile_cons_of_neg (by simpa using h c rfl)

/-- What is dropped at both ends stands at the ends alone. -/
theorem strip_append {p : Char → Bool} {s gap : List Char} (hs : s ≠ [])
    (hf : ∀ c ∈ s.head?, p c = false) (hl : ∀ c ∈ s.getLast?, p c = false)
    (hg : ∀ c ∈ gap, p c) : (((s ++ gap).dropWhile p).reverse.dropWhile p).reverse = s := by
  have hr : ∀ c ∈ s.reverse.head?, p c = false := by rwa [List.head?_reverse]
  have hback := dropWhile_append_of_head (by simpa using hs) hr []
  rw [List.append_nil] at hback
  rw [dropWhile_append_of_head hs hf, List.reverse_append,
    List.dropWhile_append_of_pos (by simpa using hg), hback, List.reverse_reverse]

/-- The span of a single word is the word. -/
theorem span_word (gap : List Char) {name : String} {t : Token} (hn : Lexer.isWord name.toList)
    (ht : t.lead = [] ∨ t.lead = space) :
    spanText [⟨gap, name.toList, .word⟩] t = name := by
  have hchars : ∀ c ∈ name.toList, (Lexer.isBlank c || c.toNat = 11) = false := by
    intro c hc
    rw [Lexer.isWord.eq_def] at hn
    generalize name.toList = cs at hn hc
    cases cs with
    | nil => cases hc
    | cons b bs =>
      simp only [Bool.and_eq_true, List.all_eq_true] at hn
      rcases List.mem_cons.1 hc with rfl | hc
      · simp only [Lexer.beginsWord, Bool.and_eq_true] at hn
        exact gap_of_nameChar hn.1.1.1.1
      · exact gap_of_nameChar (hn.2 c hc)
  have hlead : ∀ c ∈ t.lead, (Lexer.isBlank c || c.toNat = 11) = true := by
    intro c hc
    rcases ht with ht | ht <;> rw [ht] at hc
    · cases hc
    · obtain rfl := List.mem_singleton.1 hc
      rfl
  have hne : name.toList ≠ [] := by
    intro he
    simp [Lexer.isWord, he] at hn
  have hstrip := strip_append hne (fun c hc => hchars c (List.mem_of_mem_head? hc))
    (fun c hc => hchars c (List.mem_of_mem_getLast? hc)) hlead
  have hspan : spanText [⟨gap, name.toList, .word⟩] t = String.ofList
      (((name.toList ++ [] ++ t.lead).dropWhile
        fun c => Lexer.isBlank c || c.toNat = 11).reverse.dropWhile
        fun c => Lexer.isBlank c || c.toNat = 11).reverse := rfl
  rw [hspan, List.append_nil, hstrip, String.ofList_toList]

def resultOf (name : String) : ResultColumn Query :=
  if name = "*" then .star else .term (.column none name .bare) none name

def orderOf (key : SortKey) : OrderTerm Query :=
  ⟨.column none key.column .bare, key.direction = .descending, none⟩

theorem read_quoted (n : Nat) (name : String) (gap : List Char) (t : Token) (rest : List Token) :
    objectName (numbered n (Statement.quotedPieces name gap) ++ t :: rest) =
      .ok (name, t :: rest) := rfl

theorem read_value (d n : Nat) (name : String) (gap : List Char) {t : Token} (ht : endsTerm t)
    (rest : List Token) :
    term (phrases d) 1 (numbered n (Statement.valuePieces name gap) ++ t :: rest) =
      .ok (.parameter (n + 1), t :: rest) :=
  term_parameter (n + 1) gap (loose_of_ends ht rest 1 (Nat.le_refl 1))

def assignment (p : Phrases) : Reader Assignment := do
  let name ← objectName
  expect "="
  let t ← p.term 1
  pure (name, t)

theorem read_assignment {d n : Nat} {name : String} {gap : List Char} {t : Token}
    (hn : isBare reservedWords name) (ht : endsTerm t) (rest : List Token) :
    assignment (phrases (d + 1)) (numbered n (Statement.assignmentPieces name gap) ++ t :: rest) =
      .ok ((name, .parameter (n + 1)), t :: rest) := by
  have hname : objectName (numbered n (Statement.assignmentPieces name gap) ++ t :: rest) =
      .ok (name, .symbol [] "=" :: ⟨[], ['?'], .parameter (n + 1)⟩ :: t :: rest) :=
    objectName_bare (Part.excludes_of_bare hn)
  have hequal : expect "=" (.symbol [] "=" :: ⟨[], ['?'], .parameter (n + 1)⟩ :: t :: rest) =
      .ok ((), ⟨[], ['?'], .parameter (n + 1)⟩ :: t :: rest) := rfl
  have hvalue := read_value d n name [] ht rest
  rw [assignment, bind_ok hname, bind_ok hequal]
  exact bind_ok hvalue

theorem nameChar_toUpper {c : Char} (h : Lexer.isNameChar c) : Lexer.isNameChar c.toUpper := by
  by_cases hc : 'a'.val ≤ c.val ∧ c.val ≤ 'z'.val
  · have hlow : 97 ≤ c.val.toNat := UInt32.le_iff_toNat_le.1 hc.1
    have hhigh : c.val.toNat ≤ 122 := UInt32.le_iff_toNat_le.1 hc.2
    have hval : (c.val + ('A'.val - 'a'.val)).toNat = c.val.toNat - 32 := by
      have hshift : ('A'.val - 'a'.val).toNat = 4294967264 := by decide
      rw [UInt32.toNat_add, hshift]
      omega
    have hupper : c.toUpper = _ := dif_pos hc
    have hbounds : 'A'.val ≤ c.val + ('A'.val - 'a'.val) ∧
        c.val + ('A'.val - 'a'.val) ≤ 'Z'.val := by
      simp only [UInt32.le_iff_toNat_le, hval]
      exact ⟨show 65 ≤ _ by omega, show _ ≤ 90 by omega⟩
    rw [hupper]
    exact Lexer.nameChar_of_upper (decide_eq_true hbounds)
  · have hself : c.toUpper = c := dif_neg hc
    rwa [hself]

/-- A word is no symbol. -/
theorem word_is_not {gap : List Char} {name key : String} {c : Char} (hn : Lexer.isWord name.toList)
    (hk : c ∈ key.toList.head?) (hc : Lexer.isNameChar c = false) :
    (Token.word gap name).is key = false := by
  refine Bool.eq_false_iff.2 fun h => ?_
  have hkey : String.ofList (name.toList.map Char.toUpper) = key := of_decide_eq_true h
  rw [← hkey, String.toList_ofList] at hk
  rw [Lexer.isWord.eq_def] at hn
  generalize name.toList = cs at hn hk
  cases cs with
  | nil => cases hk
  | cons b bs =>
    obtain rfl : b.toUpper = c := by simpa using hk
    simp only [Lexer.beginsWord, Bool.and_eq_true] at hn
    rw [nameChar_toUpper hn.1.1.1.1] at hc
    cases hc

theorem read_selected {d n : Nat} {name : String} {gap : List Char} {t : Token}
    (hn : name = "*" ∨ isBare termWords name) (ht : endsColumn t) (rest : List Token) :
    resultColumn (phrases (d + 1)) (numbered n (Statement.selectedPieces name gap) ++ t :: rest) =
      .ok (resultOf name, t :: rest) := by
  by_cases hstar : name = "*"
  · subst hstar
    cases rest <;> rfl
  have hbare := hn.resolve_left hstar
  have hword : Lexer.isWord name.toList := by
    simp only [isBare, Bool.and_eq_true] at hbare
    exact hbare.1
  have hts : numbered n (Statement.selectedPieces name gap) ++ t :: rest =
      .word gap name :: t :: rest := by
    rw [Statement.selectedPieces, if_neg hstar]
    rfl
  have hs : (Token.word gap name).is "*" = false :=
    word_is_not hword (c := '*') rfl (by decide)
  simp only [endsColumn, Bool.and_eq_true, Bool.not_eq_true', Option.isNone_iff_eq_none,
    Bool.or_eq_true, decide_eq_true_eq] at ht
  obtain ⟨⟨⟨hterm, has⟩, hlabel⟩, hlead⟩ := ht
  have hdot : t.is "." = false := by
    simp only [endsTerm, Bool.and_eq_true, Bool.not_eq_true'] at hterm
    exact hterm.2
  have hcolumn : resultColumn.termColumn (phrases (d + 1)) (.word gap name :: t :: rest)
      (.word gap name :: t :: rest) = .ok (resultOf name, t :: rest) := by
    have hread : (phrases (d + 1)).term 1 (.word gap name :: t :: rest) =
        .ok (.column none name .bare, t :: rest) := term_column hbare hterm
    have hspan : spanSince (.word gap name :: t :: rest) (t :: rest) = .ok (name, t :: rest) := by
      have hlen : (Token.word gap name :: t :: rest).length - (t :: rest).length = 1 := by
        simp only [List.length_cons]
        omega
      have hs := span_word gap hword hlead
      rw [spanSince, hlen]
      exact congrArg (fun s => Except.ok (s, t :: rest)) hs
    have hl : labelAfter (t :: rest) = .ok (none, t :: rest) := by
      have hname : (first (t :: rest)).aliasName? = none := hlabel
      refine (bind_ok (take_miss (s := t :: rest) has)).trans
        ((congrFun (if_neg Bool.false_ne_true) (t :: rest)).trans ?_)
      simp only [hname]
    rw [resultColumn.termColumn, bind_ok hread, bind_ok hspan, bind_ok hl, resultOf, if_neg hstar]
    rfl
  have hstart : tokens (.word gap name :: t :: rest) =
      .ok (.word gap name :: t :: rest, .word gap name :: t :: rest) := rfl
  rw [hts, resultColumn, bind_ok hstart]
  cases rest with
  | nil => simpa [hs] using hcolumn
  | cons v rest => simpa [hs, hdot] using hcolumn

theorem read_key {d n : Nat} {key : SortKey} {gap : List Char} {t : Token}
    (hn : isBare termWords key.column) (ht : endsKey t) (rest : List Token) :
    orderTerm (phrases (d + 1)) (numbered n (Statement.sortPieces key gap) ++ t :: rest) =
      .ok (orderOf key, t :: rest) := by
  obtain ⟨name, direction⟩ := key
  have hkey : t.is "NULLS" = false := by simpa [endsKey] using ht
  have hnulls : take "NULLS" (t :: rest) = .ok (false, t :: rest) :=
    take_miss (s := t :: rest) hkey
  cases direction with
  | ascending =>
    have hterm : (phrases (d + 1)).term 1
        (numbered n (Statement.sortPieces ⟨name, .ascending⟩ gap) ++ t :: rest) =
          .ok (.column none name .bare, .word space "ASC" :: t :: rest) :=
      term_column (t := .word space "ASC") hn (by decide)
    have hdesc : take "DESC" (.word space "ASC" :: t :: rest) =
        .ok (false, .word space "ASC" :: t :: rest) := rfl
    have hasc : take "ASC" (.word space "ASC" :: t :: rest) = .ok (true, t :: rest) := rfl
    rw [orderTerm, bind_ok hterm, bind_ok hdesc, Bool.not_false, if_pos rfl, bind_ok hasc]
    exact bind_ok hnulls
  | descending =>
    have hterm : (phrases (d + 1)).term 1
        (numbered n (Statement.sortPieces ⟨name, .descending⟩ gap) ++ t :: rest) =
          .ok (.column none name .bare, .word space "DESC" :: t :: rest) :=
      term_column (t := .word space "DESC") hn (by decide)
    have hdesc : take "DESC" (.word space "DESC" :: t :: rest) = .ok (true, t :: rest) := rfl
    rw [orderTerm, bind_ok hterm, bind_ok hdesc, Bool.not_true, if_neg Bool.false_ne_true]
    exact bind_ok hnulls

end Tabular
