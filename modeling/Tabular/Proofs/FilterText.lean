import Tabular.Filter.Clause
import Tabular.Proofs.Layout
import Tabular.Proofs.Results
import Tabular.Sql.Phrase

/-!
# The text of a filter in pieces

A filter that has conditions is one part of the group around it: a condition, the
only part of a group, or several parts in parentheses with combinators between them.
Each part has its pieces of text and the term that they are meant to be.
-/

set_option autoImplicit false

namespace Tabular

open Sql Lexer

def termWords : List String :=
  reservedWords ++ ["CAST", "RAISE", "CURRENT_DATE", "CURRENT_TIME", "CURRENT_TIMESTAMP"]

def openWords : List String := "WITH" :: termWords

def Operator.binary : Operator → BinaryOp
  | .eq => .equal
  | .le => .atMost
  | .ge => .atLeast
  | .lt => .less
  | .gt => .greater
  | .ne => .notEqual

def Combinator.binary : Combinator → BinaryOp
  | .and => .and
  | .or => .or

structure Part where
  pieces : List String → List Char → List Piece
  term : Words

def sequence (done : Option Words) (run : Words) : List (Combinator × Words) → Words
  | [] => done.elim run fun d => .binary .or d run
  | (.and, t) :: rest => sequence done (.binary .and run t) rest
  | (.or, t) :: rest => sequence (some (done.elim run fun d => .binary .or d run)) t rest

namespace Part

def condition (number : Nat) (c : Condition) : Part where
  pieces excluded gap :=
    [.column excluded gap c.field, .token (.symbol [] (Operator.extract c.value).1.sql),
      .token (.placeholder [])]
  term := .binary (Operator.extract c.value).1.binary (.column none c.field .bare)
    (.parameter number)

def follower (q : Combinator × Part) : List Piece :=
  .token (.word space q.1.sql) :: q.2.pieces termWords space

def joined (p : Part) (rest : List (Combinator × Part)) : Part where
  pieces excluded gap := p.pieces excluded gap ++ rest.flatMap follower
  term := sequence none p.term (rest.map fun q => (q.1, q.2.term))

def enclosed (p : Part) : Part where
  pieces _ := enclosedPieces (p.pieces openWords)
  term := p.term

def ofGroup : List (Combinator × Part) → Option Part
  | [] => none
  | [(_, p)] => some p
  | (_, p) :: rest => some (p.joined rest).enclosed

end Part

namespace Filter

mutual

def part? (inherited : Combinator) (before : Nat) : Filter → Option Part
  | .leaf c => some (.condition (before + 1) c)
  | .group explicit entries => Part.ofGroup (entries.parts (explicit.getD inherited) before)

def Entries.parts (active : Combinator) (before : Nat) : Entries → List (Combinator × Part)
  | .nil => []
  | .logic rebound rest => rest.parts rebound before
  | .node first rest =>
    (first.part? active before).toList.map (fun p => (active, p)) ++
      rest.parts active (before + first.leafCount)

end

def whole? : Filter → Option Part
  | .leaf c => some (.condition 1 c)
  | .group explicit entries =>
    match entries.parts (explicit.getD .and) 0 with
    | [] => none
    | (_, p) :: rest => some (p.joined rest)

end Filter

inductive Linked (P : Nat → Part → Nat → Prop) : Nat → List (Combinator × Part) → Nat → Prop
  | nil (n : Nat) : Linked P n [] n
  | cons {n m k : Nat} {q : Combinator} {p : Part} {rest : List (Combinator × Part)}
      (first : P n p m) (others : Linked P m rest k) : Linked P n ((q, p) :: rest) k

structure Composed (admitted : Condition → Prop) (P : Nat → Part → Nat → Prop) : Prop where
  condition : ∀ n c, admitted c → P n (.condition (n + 1) c) (n + 1)
  enclosed : ∀ {n m k p rest}, P n p m → Linked P m rest k → P n (p.joined rest).enclosed k

variable {admitted : Condition → Prop} {P : Nat → Part → Nat → Prop}

theorem Linked.append {n m k : Nat} {ps qs : List (Combinator × Part)} (hp : Linked P n ps m)
    (hq : Linked P m qs k) : Linked P n (ps ++ qs) k := by
  induction hp with
  | nil n => exact hq
  | cons first _ ih => exact .cons first (ih hq)

theorem part_ofGroup (hc : Composed admitted P) {n k : Nat} {ps : List (Combinator × Part)}
    (h : Linked P n ps k) : match Part.ofGroup ps with | none => n = k | some p => P n p k := by
  cases h with
  | nil => rfl
  | cons first others =>
    cases others with
    | nil => exact first
    | cons second others => exact hc.enclosed first (.cons second others)

namespace Filter

mutual

/-- What is composed in this way holds of every part. -/
theorem part_all (hc : Composed admitted P) (inherited : Combinator) (before : Nat) :
    (f : Filter) → (∀ c ∈ f.leaves, admitted c) →
      match f.part? inherited before with
      | none => before = before + f.leafCount
      | some p => P before p (before + f.leafCount)
  | .leaf c, h => hc.condition before c (h c (by simp [leaves]))
  | .group _ entries, h => part_ofGroup hc (parts_all hc _ before entries h)

theorem parts_all (hc : Composed admitted P) (active : Combinator) (before : Nat) :
    (entries : Entries) → (∀ c ∈ entries.leaves, admitted c) →
      Linked P before (entries.parts active before) (before + entries.leaves.length)
  | .nil, _ => .nil _
  | .logic rebound rest, h => parts_all hc rebound before rest h
  | .node first rest, h => by
    have hf := part_all hc active before first fun c hc => h c (by simp [Entries.leaves, hc])
    have hr := parts_all hc active (before + first.leafCount) rest
      fun c hc => h c (by simp [Entries.leaves, hc])
    rw [Entries.parts, Entries.leaves, List.length_append, ← Nat.add_assoc]
    refine Linked.append ?_ hr
    cases hp : first.part? active before with
    | none =>
      rw [hp] at hf
      simp only at hf
      rw [← hf]
      exact .nil _
    | some p =>
      rw [hp] at hf
      exact .cons hf (.nil _)

end

/-- A whole filter is a first part with others behind it. -/
theorem whole_joined (hc : Composed admitted P) {f : Filter} {p : Part}
    (h : ∀ c ∈ f.leaves, admitted c) (hp : f.whole? = some p) :
    ∃ first m rest, P 0 first m ∧ Linked P m rest f.leafCount ∧ p = first.joined rest := by
  cases f with
  | leaf c =>
    obtain rfl := Option.some.inj hp
    exact ⟨_, 1, [], hc.condition 0 c (h c (by simp [leaves])), .nil 1, rfl⟩
  | group explicit entries =>
    have hall := parts_all hc (explicit.getD .and) 0 entries h
    rw [Nat.zero_add] at hall
    rw [whole?] at hp
    change ∃ first m rest, P 0 first m ∧ Linked P m rest entries.leaves.length ∧ _
    generalize entries.parts (explicit.getD .and) 0 = ps at hp hall
    generalize entries.leaves.length = k at hall
    cases hall with
    | nil => cases hp
    | cons first others =>
      obtain rfl := Option.some.inj hp
      exact ⟨_, _, _, first, others, rfl⟩

end Filter

/-- A comparison with a parameter can stand behind a column. -/
theorem follows_comparison (op : Operator) :
    Follows [.token (.symbol [] op.sql), .token (.placeholder [])] := by
  intro rest hr
  have hop : (Token.symbol [] op.sql).Before ('?' :: rest) := by
    cases op
    all_goals exact ⟨leading_opens (by decide) _ [] _, rfl, by decide, by decide, by decide⟩
  refine ⟨?_, hop, (laid_placeholder.sturdy [] (.inl rfl) rest hr)⟩
  cases op <;> simp [Ends, Operator.sql, pieceText, Piece.text, Token.written, Token.symbol] <;>
    decide

namespace Part

def text (p : Part) : List Char := pieceText (p.pieces termWords [])

def Regular (p : Part) : Prop := ∀ excluded, Laid (p.pieces excluded) p.text

def groupText : Bool → List (Combinator × Part) → List Char
  | _, [] => []
  | started, (q, p) :: rest =>
    (Filter.separator started q).toList ++ p.text ++ groupText true rest

/-- A part is regular if its text is laid out alike in every place. -/
theorem regular_of_laid {p : Part} {text : List Char}
    (h : ∀ excluded, Laid (p.pieces excluded) text) : p.Regular ∧ p.text = text := by
  have ht : p.text = text := (h termWords).text []
  exact ⟨fun excluded => ht ▸ h excluded, ht⟩

namespace Regular

theorem condition (n : Nat) (c : Condition) : (Part.condition n c).Regular :=
  (regular_of_laid fun excluded =>
    (laid_column excluded c.field).append (follows_comparison (Operator.extract c.value).1)).1

variable {p : Part} {rest : List (Combinator × Part)}

theorem follower {q : Combinator × Part} (h : q.2.Regular) : Follows (Part.follower q) :=
  (laid_word (w := q.1.sql) (by cases q.1 <;> decide)).follows.append (h termWords).follows

theorem followers_text (h : ∀ q ∈ rest, q.2.Regular) :
    pieceText (rest.flatMap Part.follower) = groupText true rest := by
  induction rest with
  | nil => rfl
  | cons q rest ih =>
    obtain ⟨hq, hrest⟩ := List.forall_mem_cons.1 h
    rw [List.flatMap_cons, pieceText_append, ih hrest, groupText, Part.follower, pieceText_cons,
      (hq termWords).text]
    simp [Piece.text, Token.written, Token.word, space, Filter.separator]

theorem joined {q : Combinator} (h : ∀ r ∈ (q, p) :: rest, r.2.Regular) :
    (p.joined rest).Regular ∧ (p.joined rest).text = groupText false ((q, p) :: rest) := by
  obtain ⟨hp, hrest⟩ := List.forall_mem_cons.1 h
  refine regular_of_laid fun excluded => ?_
  have hlaid := (hp excluded).append (follows_flatMap rest fun r hr => (hrest r hr).follower)
  rw [followers_text hrest] at hlaid
  exact hlaid

theorem enclosed (h : p.Regular) :
    p.enclosed.Regular ∧ p.enclosed.text = '(' :: p.text ++ [')'] :=
  regular_of_laid fun _ => laid_enclosed (h openWords)

end Regular

end Part

theorem Linked.all {Q : Part → Prop} {n k : Nat} {ps : List (Combinator × Part)}
    (h : Linked (fun _ p _ => Q p) n ps k) : ∀ q ∈ ps, Q q.2 := by
  induction h with
  | nil => simp
  | cons first _ ih =>
    intro q hq
    rcases List.mem_cons.1 hq with rfl | hq
    · exact first
    · exact ih q hq

theorem Linked.le {n k : Nat} {ps : List (Combinator × Part)}
    (h : Linked (fun n _ m => n < m) n ps k) : n ≤ k := by
  induction h with
  | nil => exact Nat.le_refl _
  | cons first _ ih => exact Nat.le_trans (Nat.le_of_lt first) ih

theorem regular_composed : Composed (fun _ => True) fun _ p _ => p.Regular where
  condition n c _ := .condition (n + 1) c
  enclosed hp hr :=
    (Part.Regular.enclosed
      (Part.Regular.joined (q := .and) (List.forall_mem_cons.2 ⟨hp, hr.all⟩)).1).1

namespace Filter

theorem regular_parts (active : Combinator) (before : Nat) (entries : Entries) :
    ∀ q ∈ entries.parts active before, q.2.Regular :=
  (parts_all regular_composed active before entries fun _ _ => trivial).all

theorem advances_composed : Composed (fun _ => True) fun n _ m => n < m where
  condition n _ _ := n.lt_succ_self
  enclosed hp hr := Nat.lt_of_lt_of_le hp hr.le

theorem part?_eq_none (inherited : Combinator) (before : Nat) {f : Filter} :
    f.part? inherited before = none ↔ f.leaves = [] := by
  have hf := part_all advances_composed inherited before f fun _ _ => trivial
  rw [leafCount] at hf
  cases h : f.part? inherited before with
  | none =>
    rw [h] at hf
    simpa using hf
  | some p =>
    rw [h] at hf
    simp only [reduceCtorEq, false_iff]
    intro hl
    simp [hl] at hf

theorem parts_eq_nil (active : Combinator) (before : Nat) {entries : Entries} :
    entries.parts active before = [] ↔ entries.leaves = [] := by
  have h := part?_eq_none (f := .group none entries) active before
  rw [part?, leaves] at h
  rw [← h]
  match entries.parts ((none : Option Combinator).getD active) before with
  | [] => simp [Part.ofGroup]
  | [_] => simp [Part.ofGroup]
  | _ :: _ :: _ => simp [Part.ofGroup]

theorem whole?_eq_none {f : Filter} : f.whole? = none ↔ f.leaves = [] := by
  cases f with
  | leaf c => simp [whole?, leaves]
  | group explicit entries =>
    rw [leaves, ← parts_eq_nil (explicit.getD .and) 0, whole?]
    cases entries.parts (explicit.getD .and) 0 <;> simp

def Known (types : ColumnTypes) (conditions : List Condition) : Prop :=
  ∀ c ∈ conditions, (types.get? c.field).isSome

def Fragment.ofText (types : ColumnTypes) (text : List Char) (conditions : List Condition)
    (terms : Nat) : Fragment :=
  ⟨⟨String.ofList text, conditions.map fun c => (Operator.extract c.value).2,
    conditions.filterMap fun c => types.get? c.field⟩, terms⟩

theorem Fragment.ofText_before (types : ColumnTypes) (separator : String) (s t : List Char)
    (cs ds : List Condition) (n m : Nat) :
    (Fragment.ofText types s cs n).before separator (.ofText types t ds m) =
      .ofText types (separator.toList ++ s ++ t) (cs ++ ds) (m + 1) := by
  simp [Fragment.before, Fragment.ofText, String.ofList_append, String.append_assoc]

theorem Fragment.ofText_enclosed (types : ColumnTypes) (cs : List Condition)
    {ps : List (Combinator × Part)} (h : ∀ q ∈ ps, q.2.Regular) :
    (Fragment.ofText types (Part.groupText false ps) cs ps.length).enclosed =
      .ofText types ((Part.ofGroup ps).elim [] Part.text) cs (Part.ofGroup ps).toList.length := by
  match ps, h with
  | [], _ => rfl
  | [(q, p)], _ =>
    simp [Fragment.enclosed, Fragment.ofText, Part.ofGroup, Part.groupText, separator]
  | (q, p) :: r :: rest, h =>
    obtain ⟨hj, htext⟩ := Part.Regular.joined h
    have he := (Part.Regular.enclosed hj).2
    rw [htext] at he
    simp only [Fragment.enclosed, Fragment.ofText, Part.ofGroup, Option.elim, he]
    simp [String.ofList_append, String.append_assoc]

mutual

theorem fragment_part {types : ColumnTypes} (inherited : Combinator) (before : Nat) :
    (f : Filter) → Known types f.leaves →
      f.fragment types inherited = .ok (.ofText types
        ((f.part? inherited before).elim [] Part.text) f.leaves
        (f.part? inherited before).toList.length)
  | .leaf c, h => by
    obtain ⟨type, ht⟩ := Option.isSome_iff_exists.1 (h c (by simp [leaves]))
    simp [fragment, conditionFragment, ht, Fragment.ofText, part?, leaves, Part.text,
      Part.condition, pieceText, Piece.text, Token.written, Token.symbol, Token.placeholder,
      String.ofList_append, String.append_assoc]
  | .group explicit entries, h => by
    rw [fragment, fragment_parts _ before entries false h]
    exact congrArg Except.ok (Fragment.ofText_enclosed types _ (regular_parts _ before entries))

theorem fragment_parts {types : ColumnTypes} (active : Combinator) (before : Nat) :
    (entries : Entries) → (started : Bool) → Known types entries.leaves →
      entries.fragment types active started = .ok (.ofText types
        (Part.groupText started (entries.parts active before)) entries.leaves
        (entries.parts active before).length)
  | .nil, _, _ => rfl
  | .logic rebound rest, started, h => fragment_parts rebound before rest started h
  | .node first rest, started, h => by
    have hf := fragment_part active before first fun c hc => h c (by simp [Entries.leaves, hc])
    have hr (b : Bool) := fragment_parts active (before + first.leafCount) rest b
      fun c hc => h c (by simp [Entries.leaves, hc])
    rw [Entries.fragment, hf, Entries.parts, Entries.leaves]
    cases hp : first.part? active before with
    | none =>
      have hl := (part?_eq_none _ _).1 hp
      rw [hl]
      exact hr started
    | some p =>
      have ht := hr true
      simp only [Option.elim, Option.toList, List.map_cons, List.map_nil, List.length_cons,
        List.length_nil, List.cons_append, List.nil_append]
      rw [ht]
      exact congrArg Except.ok (Fragment.ofText_before ..)

end

theorem whole_regular {f : Filter} {p : Part} (h : f.whole? = some p) : p.Regular := by
  obtain ⟨first, _, rest, hf, hr, rfl⟩ := whole_joined regular_composed (fun _ _ => trivial) h
  exact (Part.Regular.joined (q := .and) (List.forall_mem_cons.2 ⟨hf, hr.all⟩)).1

theorem text_ne_composed : Composed (fun _ => True) fun _ p _ => p.text ≠ [] where
  condition n c _ := by
    simp [Part.text, Part.condition, pieceText, Piece.text, Token.written, Token.placeholder]
  enclosed _ _ := by
    simp [Part.text, Part.enclosed, enclosedPieces, pieceText, Piece.text, Token.written,
      Token.symbol]

theorem whole_text_ne {f : Filter} {p : Part} (h : f.whole? = some p) : p.text ≠ [] := by
  obtain ⟨first, _, rest, hf, _, rfl⟩ := whole_joined text_ne_composed (fun _ _ => trivial) h
  simp only [Part.text, Part.joined, pieceText_append] at hf ⊢
  simp [hf]

/-- The clause of a filter over known columns is the text of its part. -/
theorem clause_whole (types : ColumnTypes) (f : Filter) (h : Known types f.leaves) :
    f.clause types =
      .ok (Fragment.ofText types (f.whole?.elim [] Part.text) f.leaves 0).clause := by
  cases f with
  | leaf c =>
    have hf := fragment_part .and 0 (.leaf c) h
    rw [fragment] at hf
    rw [clause, hf]
    rfl
  | group explicit entries =>
    have hall := regular_parts (explicit.getD .and) 0 entries
    rw [clause, fragment_parts _ 0 entries false h, whole?]
    generalize entries.parts (explicit.getD .and) 0 = ps at hall
    match ps with
    | [] => rfl
    | (q, p) :: rest =>
      rw [Option.elim, (Part.Regular.joined hall).2]
      rfl

mutual

theorem known_of_fragment {types : ColumnTypes} (inherited : Combinator) :
    (f : Filter) → (r : Fragment) → f.fragment types inherited = .ok r → Known types f.leaves
  | .leaf c, r, h => by
    rw [fragment, conditionFragment] at h
    intro d hd
    obtain rfl := List.mem_singleton.1 hd
    cases ht : types.get? d.field with
    | none => simp [ht] at h
    | some type => rfl
  | .group explicit entries, r, h => by
    rw [fragment] at h
    cases hp : entries.fragment types (explicit.getD inherited) false with
    | error e => simp [hp, Except.map] at h
    | ok parts => exact known_of_fragments entries parts hp

theorem known_of_fragments {types : ColumnTypes} {active : Combinator} {started : Bool} :
    (entries : Entries) → (r : Fragment) → entries.fragment types active started = .ok r →
      Known types entries.leaves
  | .nil, _, _ => fun _ hc => nomatch hc
  | .logic _ rest, r, h => known_of_fragments rest r h
  | .node first rest, r, h => by
    rw [Entries.fragment] at h
    obtain ⟨part, hpart, h⟩ := bind_eq_ok.1 h
    have hfirst := known_of_fragment _ first part hpart
    have hrest : Known types rest.leaves := by
      split at h
      · exact known_of_fragments rest r h
      · obtain ⟨others, hothers, -⟩ := bind_eq_ok.1 h
        exact known_of_fragments rest others hothers
    intro c hc
    rcases List.mem_append.1 hc with hc | hc
    · exact hfirst c hc
    · exact hrest c hc

end

/-- The columns of a filter that makes a clause are known. -/
theorem known_of_clause {types : ColumnTypes} {f : Filter} {c : Clause}
    (h : f.clause types = .ok c) : Known types f.leaves := by
  cases f with
  | leaf d =>
    cases hf : conditionFragment types d with
    | error e => simp [clause, hf, Except.map] at h
    | ok r => exact known_of_fragment .and (.leaf d) r hf
  | group explicit entries =>
    cases hf : entries.fragment types (explicit.getD .and) false with
    | error e => simp [clause, hf, Except.map] at h
    | ok r => exact known_of_fragments entries r hf

end Filter
end Tabular
