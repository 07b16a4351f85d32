import Tabular.Proofs.FilterText
import Tabular.Sql.Parameter
import Tabular.Sql.Reader.Query

/-!
# Reading terms back

A sequence of conditions is read as the term that groups its AND-runs before its ORs.
What stands in parentheses is a single operand, whatever surrounds it.
-/

set_option autoImplicit false

namespace Tabular.Sql

def numberFrom (k : Nat) : List Token → List Token
  | [] => []
  | t :: rest =>
    match t.lexeme with
    | .parameter _ => { t with lexeme := .parameter (k + 1) } :: numberFrom (k + 1) rest
    | _ => t :: numberFrom k rest

def isParameter (t : Token) : Bool :=
  match t.lexeme with
  | .parameter _ => true
  | _ => false

def parameterCount (ts : List Token) : Nat := ts.countP isParameter

theorem numberFrom_append (k : Nat) (ts us : List Token) :
    numberFrom k (ts ++ us) = numberFrom k ts ++ numberFrom (k + parameterCount ts) us := by
  induction ts generalizing k with
  | nil => rfl
  | cons t ts ih =>
    obtain ⟨lead, raw, lexeme⟩ := t
    cases lexeme
    case parameter n =>
      have hc : parameterCount (⟨lead, raw, .parameter n⟩ :: ts) = parameterCount ts + 1 :=
        List.countP_cons_of_pos rfl
      have hk : k + (parameterCount ts + 1) = k + 1 + parameterCount ts := by omega
      simp only [List.cons_append, numberFrom, ih, hc, hk]
    all_goals exact congrArg (_ :: ·) (ih k)

theorem numberFrom_length (k : Nat) (ts : List Token) :
    (numberFrom k ts).length = ts.length := by
  induction ts generalizing k with
  | nil => rfl
  | cons t ts ih =>
    rw [numberFrom]
    split <;> simp [ih]

namespace Reader

variable {α β : Type}

theorem bind_ok {r : Reader α} {f : α → Reader β} {ts rest : List Token} {a : α}
    (h : r ts = .ok (a, rest)) : (r >>= f) ts = f a rest := by
  simp only [bind, h]

theorem bind_error {r : Reader α} {f : α → Reader β} {ts : List Token} {e : Fault}
    (h : r ts = .error e) : (r >>= f) ts = .error e := by
  simp only [bind, h]

theorem take_hit {key : String} {s : List Token} (h : (first s).is key) :
    take key s = .ok (true, s.tail) := if_pos h

theorem take_miss {key : String} {s : List Token} (h : (first s).is key = false) :
    take key s = .ok (false, s) := by simp [take, h]

def Stops (least : Nat) (rest : List Token) : Prop :=
  ∀ p left, step p least left rest = .ok (none, rest)

def Loose (least : Nat) (rest : List Token) : Prop := ∀ n, least ≤ n → Stops n rest

theorem Loose.mono {m n : Nat} {rest : List Token} (h : Loose m rest) (hm : m ≤ n) :
    Loose n rest := fun k hk => h k (Nat.le_trans hm hk)

theorem climb_stops {p : Phrases} {least fuel : Nat} {left : Words} {rest : List Token}
    (h : Stops least rest) (hf : rest.length < fuel) :
    climb p least fuel left rest = .ok (left, rest) := by
  obtain ⟨n, rfl⟩ : ∃ n, fuel = n + 1 := ⟨fuel - 1, by omega⟩
  rw [climb, bind_ok (h p left)]
  rfl

/-- One operator with its right operand. -/
theorem climb_binary {p : Phrases} {least fuel level : Nat} {op : BinaryOp} {left right : Words}
    {t : Token} {ts rest : List Token} (ht : binaryOp? t = some (level, op))
    (hl : least ≤ level) (hr : p.term (level + 1) ts = .ok (right, rest)) :
    climb p least (fuel + 1) left (t :: ts) = climb p least fuel (.binary op left right) rest := by
  have hs : step p least left (t :: ts) = .ok (some (.binary op left right), rest) := by
    have hp : peek (t :: ts) = .ok (t, t :: ts) := rfl
    rw [step, bind_ok hp]
    simp only [ht, if_neg (Nat.not_lt.2 hl)]
    have hk : skip (t :: ts) = .ok ((), ts) := rfl
    rw [bind_ok hk, bind_ok hr]
    rfl
  rw [climb, bind_ok hs]

def suffixWords : List String :=
  ["NOT", "COLLATE", "IS", "ISNULL", "NOTNULL", "IN", "BETWEEN"] ++ matchWords

theorem loose_of_key {t : Token} (hb : binaryOp? t = none) (hs : t.isAny suffixWords = false)
    (least : Nat) (rest : List Token) : Loose least (t :: rest) := by
  intro n _ p left
  have hp : peek (t :: rest) = .ok (t, t :: rest) := rfl
  have hi (w : String) (hw : w ∈ suffixWords) : t.is w = false := by
    refine Bool.eq_false_iff.2 fun hi => ?_
    obtain rfl : t.key = w := by simpa [Token.is] using hi
    have hc : t.isAny suffixWords := by simpa [Token.isAny] using hw
    rw [hs] at hc
    cases hc
  have hm : t.isAny matchWords = false := by
    refine Bool.eq_false_iff.2 fun hm => ?_
    have hc : t.isAny suffixWords := by
      simp only [Token.isAny, List.contains_iff_mem] at hm ⊢
      exact List.mem_append_right _ hm
    rw [hs] at hc
    cases hc
  rw [step, bind_ok hp]
  simp only [hb, hm, hi "NOT" (by decide), hi "COLLATE" (by decide), hi "IS" (by decide),
    hi "ISNULL" (by decide), hi "NOTNULL" (by decide), hi "IN" (by decide),
    hi "BETWEEN" (by decide), Bool.false_eq_true, false_and, or_self, if_false, ite_self]
  rfl

theorem loose_of_binary {t : Token} {level : Nat} {op : BinaryOp}
    (hb : binaryOp? t = some (level, op)) (rest : List Token) : Loose (level + 1) (t :: rest) := by
  intro n hn p left
  have hp : peek (t :: rest) = .ok (t, t :: rest) := rfl
  rw [step, bind_ok hp]
  simp only [hb, if_pos (Nat.lt_of_succ_le hn)]
  rfl

theorem operand_parameter (p : Phrases) (n : Nat) (gap : List Char) (rest : List Token) :
    operand p (⟨gap, ['?'], .parameter n⟩ :: rest) = .ok (.parameter n, rest) := rfl

theorem operand_open (p : Phrases) (gap : List Char) (ts : List Token) :
    operand p (.symbol gap "(" :: ts) = parenthesised p (.symbol gap "(" :: ts) := rfl

theorem term_succ (d least : Nat) : (phrases (d + 1)).term least = term (phrases d) least := rfl

theorem term_of_operand {p : Phrases} {least : Nat} {ts rest : List Token} {t : Words}
    (h : operand p ts = .ok (t, rest)) :
    term p least ts = climb p least (rest.length + 1) t rest := bind_ok h

/-- A parameter at the end of a term. -/
theorem term_parameter {p : Phrases} {least : Nat} {rest : List Token} (n : Nat)
    (gap : List Char) (h : Stops least rest) :
    term p least (⟨gap, ['?'], .parameter n⟩ :: rest) = .ok (.parameter n, rest) := by
  rw [term_of_operand (operand_parameter p n gap rest), climb_stops h (Nat.lt_succ_self _)]

/-- A word with no meaning of its own in front of a term. -/
theorem wordOperand_column {p : Phrases} {t u : Token} {rest : List Token}
    (hk : termWords.contains t.key = false) (ho : u.is "(" = false) (hd : u.is "." = false) :
    wordOperand p t (t :: u :: rest) = .ok (.column none t.text .bare, u :: rest) := by
  have hp (ts : List Token) : peek (u :: ts) = .ok (u, u :: ts) := rfl
  have hs : skip (t :: u :: rest) = .ok ((), u :: rest) := rfl
  have hr : reservedWords.contains t.key = false := by
    refine Bool.eq_false_iff.2 fun hr => ?_
    have hc : termWords.contains t.key := by
      simp only [List.contains_iff_mem, termWords] at hr ⊢
      exact List.mem_append_left _ hr
    rw [hk] at hc
    cases hc
  have hw : wordOperand p t = (do skip; named p t.text .bare) := by
    unfold wordOperand
    split
    case h_10 => exact if_neg (by simpa using hr)
    all_goals
      rename_i h
      rw [h] at hk
      exact absurd hk (by decide)
  rw [hw, bind_ok hs, named, bind_ok (hp _)]
  simp only [ho, hd, Bool.false_eq_true, if_false]
  rfl

def UnitReads (ts : List Token) (t : Words) : Prop :=
  ∀ d, ts.length ≤ d → ∀ least, least ≤ notLevel → ∀ rest, Loose notLevel rest →
    ∃ fuel, rest.length < fuel ∧
      term (phrases d) least (ts ++ rest) = climb (phrases d) least fuel t rest

def TermReads (ts : List Token) (t : Words) : Prop :=
  ∀ d, ts.length ≤ d → ∀ rest, Loose 1 rest → term (phrases d) 1 (ts ++ rest) = .ok (t, rest)

theorem operator_level (op : Operator) (gap : List Char) :
    ∃ level, notLevel < level ∧ binaryOp? (.symbol gap op.sql) = some (level, op.binary) := by
  cases op <;> exact ⟨_, by decide, rfl⟩

theorem unit_condition (gap name : List Char) (op : Operator) (n : Nat)
    (hk : termWords.contains (String.ofList (name.map Char.toUpper)) = false) :
    UnitReads [⟨gap, name, .word⟩, .symbol [] op.sql, ⟨[], ['?'], .parameter n⟩]
      (.binary op.binary (.column none (String.ofList name) .bare) (.parameter n)) := by
  intro d hd least hl rest hr
  simp only [List.length_cons] at hd
  obtain ⟨d, rfl⟩ : ∃ e, d = e + 1 := ⟨d - 1, by omega⟩
  obtain ⟨level, hlevel, hb⟩ := operator_level op []
  refine ⟨rest.length + 2, by omega, ?_⟩
  have hop : (Token.symbol [] op.sql).is "(" = false ∧ (Token.symbol [] op.sql).is "." = false := by
    cases op <;> exact ⟨rfl, rfl⟩
  have hc : operand (phrases (d + 1)) (⟨gap, name, .word⟩ :: .symbol [] op.sql ::
      ⟨[], ['?'], .parameter n⟩ :: rest) = .ok (.column none (String.ofList name) .bare,
        .symbol [] op.sql :: ⟨[], ['?'], .parameter n⟩ :: rest) :=
    wordOperand_column (t := ⟨gap, name, .word⟩) hk hop.1 hop.2
  have hs : Stops (level + 1) rest := hr _ (by omega)
  exact (term_of_operand hc).trans (climb_binary hb (by omega) (term_parameter n [] hs))

theorem unit_enclosed {gap : List Char} {ts : List Token} {t : Words} (h : TermReads ts t)
    (hq : startsQuery (first ts) = false) (hn : ts ≠ []) :
    UnitReads (.symbol gap "(" :: ts ++ [.symbol [] ")"]) t := by
  intro d hd least _ rest _
  simp only [List.length_append, List.length_cons] at hd
  obtain ⟨d, rfl⟩ : ∃ e, d = e + 1 := ⟨d - 1, by omega⟩
  refine ⟨rest.length + 1, by omega, ?_⟩
  have hclose : Loose 1 (.symbol [] ")" :: rest) := loose_of_key rfl rfl 1 rest
  have ht : term (phrases d) 1 (ts ++ .symbol [] ")" :: rest) = .ok (t, .symbol [] ")" :: rest) :=
    h d (by omega) _ hclose
  have hfirst : first (ts ++ .symbol [] ")" :: rest) = first ts := by
    cases ts with
    | nil => exact absurd rfl hn
    | cons u us => rfl
  have hitems : items ((phrases (d + 1)).term 1) (ts ++ .symbol [] ")" :: rest) =
      .ok ([t], .symbol [] ")" :: rest) := by
    rw [items, commaList, term_succ, bind_ok ht]
    rfl
  have ho : operand (phrases (d + 1)) (.symbol gap "(" :: (ts ++ .symbol [] ")" :: rest)) =
      .ok (t, rest) := by
    have hp : peek (ts ++ .symbol [] ")" :: rest) =
        .ok (first ts, ts ++ .symbol [] ")" :: rest) := by
      rw [peek, hfirst]
    have hopen : expect "(" (.symbol gap "(" :: (ts ++ .symbol [] ")" :: rest)) =
        .ok ((), ts ++ .symbol [] ")" :: rest) := rfl
    rw [operand_open, parenthesised, bind_ok hopen, bind_ok hp, hq]
    simp only [Bool.false_eq_true, if_false]
    rw [bind_ok hitems]
    rfl
  have happ : .symbol gap "(" :: ts ++ [.symbol [] ")"] ++ rest =
      .symbol gap "(" :: (ts ++ .symbol [] ")" :: rest) := by simp
  rw [happ, term_of_operand ho]

structure Follower where
  combinator : Combinator
  tokens : List Token
  term : Words

namespace Follower

def written (q : Follower) : List Token := .word space q.combinator.sql :: q.tokens

def joined (q : Follower) : Combinator × Words := (q.combinator, q.term)

theorem and_level : binaryOp? (.word space Combinator.and.sql) = some (2, .and) := rfl

theorem or_level : binaryOp? (.word space Combinator.or.sql) = some (1, .or) := rfl

def StartsRun : List Follower → Prop
  | [] => True
  | q :: _ => q.combinator = .or

end Follower

open Follower

variable {fs : List Follower} {rest : List Token}

theorem loose_followers (fs : List Follower) (hr : Loose 1 rest) :
    Loose notLevel (fs.flatMap written ++ rest) := by
  cases fs with
  | nil => exact hr.mono (by decide)
  | cons q fs =>
    obtain ⟨combinator, ts, t⟩ := q
    cases combinator with
    | and => exact loose_of_binary and_level _
    | or => exact (loose_of_binary or_level _).mono (by decide)

/-- A run of units joined by AND is read up to the next OR. -/
theorem climb_run {d : Nat} (h : ∀ q ∈ fs, UnitReads q.tokens q.term) (hr : Loose 1 rest)
    (hd : (fs.flatMap written).length ≤ d) (run : Words) (fuel : Nat)
    (hf : (fs.flatMap written ++ rest).length < fuel) :
    ∃ run' fs', StartsRun fs' ∧ fs' <:+ fs ∧
      (∀ done, sequence done run (fs.map joined) = sequence done run' (fs'.map joined)) ∧
      climb (phrases d) 2 fuel run (fs.flatMap written ++ rest) =
        .ok (run', fs'.flatMap written ++ rest) := by
  induction fs generalizing run fuel with
  | nil =>
    exact ⟨run, [], trivial, List.suffix_rfl, fun _ => rfl,
      climb_stops (hr 2 (by decide)) hf⟩
  | cons q fs ih =>
    obtain ⟨combinator, ts, t⟩ := q
    cases combinator with
    | or =>
      have hs : Stops 2 ((Follower.mk .or ts t :: fs).flatMap written ++ rest) :=
        loose_of_binary or_level _ 2 (Nat.le_refl _)
      exact ⟨run, ⟨.or, ts, t⟩ :: fs, rfl, List.suffix_rfl, fun _ => rfl, climb_stops hs hf⟩
    | and =>
      simp only [List.flatMap_cons, List.length_append, written, List.length_cons] at hd hf
      obtain ⟨d, rfl⟩ : ∃ e, d = e + 1 := ⟨d - 1, by omega⟩
      obtain ⟨fuel, rfl⟩ : ∃ n, fuel = n + 1 := ⟨fuel - 1, by omega⟩
      have hl := loose_followers fs hr
      obtain ⟨n, hn, hu⟩ := h ⟨.and, ts, t⟩ (by simp) d (by simp only; omega) notLevel
        (Nat.le_refl _) _ hl
      have hterm := hu.trans (climb_stops (hl _ (Nat.le_refl _)) hn)
      obtain ⟨run', fs', hor, hsuf, hseq, hclimb⟩ := ih (fun q hq => h q (by simp [hq]))
        (by omega) (.binary .and run t) fuel (by simp only [List.length_append]; omega)
      refine ⟨run', fs', hor, hsuf.trans (List.suffix_cons _ _), fun done => hseq done, ?_⟩
      rw [← hclimb, List.flatMap_cons, List.append_assoc]
      exact climb_binary and_level (by decide) hterm

theorem sequence_run {t run : Words} (h : StartsRun fs) :
    sequence (some t) run (fs.map joined) = sequence none (.binary .or t run) (fs.map joined) := by
  cases fs with
  | nil => rfl
  | cons q fs =>
    obtain ⟨combinator, ts, u⟩ := q
    obtain rfl : combinator = .or := h
    rfl

/-- A whole sequence is read from its first unit on. -/
theorem climb_sequence {d : Nat} (n : Nat) (hn : fs.length ≤ n)
    (h : ∀ q ∈ fs, UnitReads q.tokens q.term) (hr : Loose 1 rest)
    (hd : (fs.flatMap written).length ≤ d) (t : Words) (fuel : Nat)
    (hf : (fs.flatMap written ++ rest).length < fuel) :
    climb (phrases d) 1 fuel t (fs.flatMap written ++ rest) =
      .ok (sequence none t (fs.map joined), rest) := by
  induction n generalizing fs t fuel with
  | zero =>
    obtain rfl := List.eq_nil_of_length_eq_zero (Nat.le_zero.1 hn)
    exact climb_stops (hr 1 (Nat.le_refl _)) hf
  | succ n ih =>
    cases fs with
    | nil => exact climb_stops (hr 1 (Nat.le_refl _)) hf
    | cons q fs =>
      obtain ⟨combinator, ts, u⟩ := q
      have hfs : ∀ q ∈ fs, UnitReads q.tokens q.term := fun q hq => h q (by simp [hq])
      have hu := h ⟨combinator, ts, u⟩ (by simp)
      have hl := loose_followers fs hr
      simp only [List.flatMap_cons, List.length_append, written, List.length_cons] at hd hf hn
      obtain ⟨d, rfl⟩ : ∃ e, d = e + 1 := ⟨d - 1, by omega⟩
      obtain ⟨fuel, rfl⟩ : ∃ n, fuel = n + 1 := ⟨fuel - 1, by omega⟩
      rw [List.flatMap_cons, List.append_assoc]
      cases combinator with
      | and =>
        obtain ⟨m, hm, hu⟩ := hu d (by simp only; omega) notLevel (Nat.le_refl _) _ hl
        have hterm := hu.trans (climb_stops (hl _ (Nat.le_refl _)) hm)
        have hfuel : (fs.flatMap written ++ rest).length < fuel := by
          simp only [List.length_append]
          omega
        exact (climb_binary and_level (by decide) hterm).trans
          (ih (by omega) hfs (by omega) _ _ hfuel)
      | or =>
        obtain ⟨m, hm, hu⟩ := hu d (by simp only; omega) 2 (by decide) _ hl
        obtain ⟨run, fs', hor, hsuf, hseq, hclimb⟩ := climb_run (d := d) hfs hr (by omega) u m hm
        have hstep := @climb_binary (phrases (d + 1)) _ fuel _ _ t _ _ _ _ or_level (Nat.le_refl 1)
          (hu.trans hclimb)
        have hle : (fs'.flatMap written).length ≤ (fs.flatMap written).length := by
          obtain ⟨pre, rfl⟩ := hsuf
          simp
        refine hstep.trans ((@ih fs' ?_ ?_ ?_ _ _ ?_).trans ?_)
        · exact Nat.le_trans hsuf.length_le (by omega)
        · exact fun q hq => hfs q (hsuf.subset hq)
        · omega
        · simp only [List.length_append]
          omega
        · rw [← sequence_run hor]
          exact congrArg (fun x => Except.ok (x, rest)) (hseq (some t)).symm

theorem term_sequence {ts : List Token} {t : Words} (ht : UnitReads ts t)
    (h : ∀ q ∈ fs, UnitReads q.tokens q.term) :
    TermReads (ts ++ fs.flatMap written) (sequence none t (fs.map joined)) := by
  intro d hd rest hr
  simp only [List.length_append] at hd
  obtain ⟨n, hn, hu⟩ := ht d (by omega) 1 (by decide) _ (loose_followers fs hr)
  rw [List.append_assoc, hu]
  exact climb_sequence fs.length (Nat.le_refl _) h hr (by omega) t n hn

end Reader
end Tabular.Sql
