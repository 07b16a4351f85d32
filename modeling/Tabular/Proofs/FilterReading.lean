import Tabular.Proofs.Reading

/-!
# The text of a filter read back

Each part of a filter whose columns have bare names is read as a unit, its conditions
with the numbers of their parameters. The text of the whole filter is read as the
sequence of its parts.
-/

set_option autoImplicit false

namespace Tabular

open Sql Sql.Reader

def IsTermPlace (excluded : List String) : Prop := excluded = termWords ∨ excluded = openWords

theorem bare_of_open {excluded : List String} (h : IsTermPlace excluded) {name : String}
    (hn : isBare openWords name) : isBare excluded name := by
  rcases h with rfl | rfl
  · simp only [isBare, openWords, Bool.and_eq_true, Bool.not_eq_true', List.contains_cons,
      Bool.or_eq_false_iff] at hn ⊢
    exact ⟨hn.1, hn.2.2⟩
  · exact hn

namespace Part

def tokens (p : Part) (n : Nat) (excluded : List String) (gap : List Char) : List Token :=
  numberFrom n ((p.pieces excluded gap).map Piece.toToken)

structure Legible (n : Nat) (p : Part) (m : Nat) : Prop where
  plain : ∀ excluded, IsTermPlace excluded → ∀ gap, ∀ x ∈ p.pieces excluded gap, x.Plain
  count : ∀ excluded gap, n + parameterCount ((p.pieces excluded gap).map Piece.toToken) = m
  reads : ∀ excluded, IsTermPlace excluded → ∀ gap, UnitReads (p.tokens n excluded gap) p.term
  first : p.tokens n openWords [] ≠ [] ∧ startsQuery (first (p.tokens n openWords [])) = false

theorem tokens_condition (n : Nat) (c : Condition) (excluded : List String) (gap : List Char) :
    (Part.condition (n + 1) c).tokens n excluded gap =
      [⟨gap, c.field.toList, .word⟩, .symbol [] (Operator.extract c.value).1.sql,
        ⟨[], ['?'], .parameter (n + 1)⟩] := rfl

theorem excludes_of_bare {excluded : List String} {name : String} (h : isBare excluded name) :
    excluded.contains (String.ofList (name.toList.map Char.toUpper)) = false := by
  simp only [isBare, Bool.and_eq_true, Bool.not_eq_true'] at h
  exact h.2

theorem legible_condition {c : Condition} (n : Nat) (h : isBare openWords c.field) :
    Legible n (.condition (n + 1) c) (n + 1) where
  plain excluded he gap x hx := by
    simp only [Part.condition, List.mem_cons, List.not_mem_nil, or_false] at hx
    rcases hx with rfl | rfl | rfl
    · exact bare_of_open he h
    · trivial
    · trivial
  count _ _ := rfl
  reads excluded he gap := by
    have hk := excludes_of_bare (bare_of_open (.inl rfl) h)
    have hu := unit_condition gap c.field.toList (Operator.extract c.value).1 (n + 1) hk
    rw [String.ofList_toList] at hu
    exact hu
  first := by
    refine ⟨by simp [tokens_condition], ?_⟩
    have hk := excludes_of_bare h
    have hf : (Reader.first ((Part.condition (n + 1) c).tokens n openWords [])).key =
        String.ofList (c.field.toList.map Char.toUpper) := rfl
    rw [startsQuery, Token.isAny, hf]
    refine Bool.eq_false_iff.2 fun hs => ?_
    simp only [List.contains_cons, List.contains_nil, Bool.or_false, Bool.or_eq_true,
      beq_iff_eq] at hs
    rcases hs with hs | hs | hs <;> rw [hs] at hk <;> exact absurd hk (by decide)

/-- Parts behind combinators are followers in the sequence that is read. -/
theorem followers_of_linked {m k : Nat} {rest : List (Combinator × Part)}
    (h : Linked Legible m rest k) : ∃ fs : List Follower,
      (∀ x ∈ rest.flatMap follower, x.Plain) ∧
      m + parameterCount ((rest.flatMap follower).map Piece.toToken) = k ∧
      numberFrom m ((rest.flatMap follower).map Piece.toToken) = fs.flatMap Follower.written ∧
      fs.map Follower.joined = rest.map (fun q => (q.1, q.2.term)) ∧
      ∀ q ∈ fs, UnitReads q.tokens q.term := by
  induction h with
  | nil n => exact ⟨[], by simp, by simp [parameterCount], rfl, rfl, by simp⟩
  | @cons n m k q p rest first _ ih =>
    obtain ⟨fs, hplain, hcount, htokens, hjoined, hreads⟩ := ih
    have hc := first.count termWords space
    refine ⟨⟨q, p.tokens n termWords space, p.term⟩ :: fs, ?_, ?_, ?_, ?_, ?_⟩
    · intro x hx
      rw [List.flatMap_cons, List.mem_append] at hx
      rcases hx with hx | hx
      · rcases List.mem_cons.1 hx with rfl | hx
        · trivial
        · exact first.plain _ (.inl rfl) _ x hx
      · exact hplain x hx
    · rw [List.flatMap_cons, List.map_append, parameterCount, List.countP_append, ← hcount, ← hc,
        Nat.add_assoc]
      rfl
    · rw [List.flatMap_cons, List.map_append, numberFrom_append, List.flatMap_cons, ← htokens, ← hc]
      rfl
    · rw [List.map_cons, List.map_cons, hjoined]
      rfl
    · intro r hr
      rcases List.mem_cons.1 hr with rfl | hr
      · exact first.reads _ (.inl rfl) _
      · exact hreads r hr

structure Sequence (n : Nat) (p : Part) (m : Nat) : Prop where
  plain : ∀ excluded, IsTermPlace excluded → ∀ gap, ∀ x ∈ p.pieces excluded gap, x.Plain
  count : ∀ excluded gap, n + parameterCount ((p.pieces excluded gap).map Piece.toToken) = m
  reads : ∀ excluded, IsTermPlace excluded → ∀ gap, TermReads (p.tokens n excluded gap) p.term
  first : p.tokens n openWords [] ≠ [] ∧
    startsQuery (Reader.first (p.tokens n openWords [])) = false

theorem first_append {ts us : List Token} (h : ts ≠ []) :
    Reader.first (ts ++ us) = Reader.first ts := by
  cases ts with
  | nil => exact absurd rfl h
  | cons t ts => rfl

theorem sequence_joined {n m k : Nat} {p : Part} {rest : List (Combinator × Part)}
    (hp : Legible n p m) (h : Linked Legible m rest k) : Sequence n (p.joined rest) k := by
  obtain ⟨fs, hplain, hcount, htokens, hjoined, hreads⟩ := followers_of_linked h
  have hpieces (excluded : List String) (gap : List Char) :
      (p.joined rest).tokens n excluded gap =
        p.tokens n excluded gap ++ fs.flatMap Follower.written := by
    rw [tokens, joined, List.map_append, numberFrom_append, hp.count, htokens, tokens]
  refine ⟨fun excluded he gap x hx => ?_, fun excluded gap => ?_, fun excluded he gap => ?_, ?_⟩
  · rw [joined, List.mem_append] at hx
    exact hx.elim (hp.plain _ he _ x) (hplain x)
  · rw [joined, List.map_append, parameterCount, List.countP_append, ← Nat.add_assoc]
    exact (congrArg (· + _) (hp.count excluded gap)).trans hcount
  · have hseq := term_sequence (hp.reads excluded he gap) hreads
    rw [hpieces]
    rw [hjoined] at hseq
    exact hseq
  · rw [hpieces, first_append hp.first.1]
    exact ⟨by simp [hp.first.1], hp.first.2⟩

theorem legible_enclosed {n m : Nat} {p : Part} (h : Sequence n p m) :
    Legible n p.enclosed m := by
  have htokens (excluded : List String) (gap : List Char) :
      p.enclosed.tokens n excluded gap =
        .symbol gap "(" :: p.tokens n openWords [] ++ [.symbol [] ")"] := by
    have hpieces : p.enclosed.pieces excluded gap =
        .token (.symbol gap "(") :: p.pieces openWords [] ++ [.token (.symbol [] ")")] := rfl
    rw [tokens, hpieces, List.map_append, numberFrom_append]
    rfl
  refine ⟨fun excluded he gap x hx => ?_, fun excluded gap => ?_, fun excluded he gap => ?_, ?_⟩
  · change x ∈ Piece.token _ :: (p.pieces openWords [] ++ [.token (.symbol [] ")")]) at hx
    simp only [List.mem_cons, List.mem_append, List.not_mem_nil, or_false] at hx
    rcases hx with rfl | hx | rfl
    · trivial
    · exact h.plain _ (.inr rfl) _ x hx
    · trivial
  · change n + parameterCount (List.map Piece.toToken
      (.token (.symbol gap "(") :: p.pieces openWords [] ++ [.token (.symbol [] ")")])) = m
    rw [← h.count openWords [], List.map_append, parameterCount, List.countP_append]
    rfl
  · rw [htokens]
    exact unit_enclosed (h.reads _ (.inr rfl) _) h.first.2 h.first.1
  · rw [htokens]
    exact ⟨by simp, rfl⟩

theorem legible_composed : Composed (fun c => isBare openWords c.field) Legible where
  condition n _ h := legible_condition n h
  enclosed hp hr := legible_enclosed (sequence_joined hp hr)

end Part

namespace Filter

/-- The text of a filter with bare names is read as the sequence of its parts. -/
theorem whole_sequence {f : Filter} {p : Part} (h : ∀ c ∈ f.leaves, isBare openWords c.field)
    (hp : f.whole? = some p) : p.Sequence 0 f.leafCount := by
  obtain ⟨first, m, rest, hf, hr, rfl⟩ := whole_joined Part.legible_composed h hp
  exact Part.sequence_joined hf hr

end Filter

def readCondition (s : String) : Except Fault Words :=
  let ts := numberFrom 0 (tokensOf s)
  match (phrases ts.length).term 1 ts with
  | .error e => .error e
  | .ok (t, rest) =>
    if (first rest).lexeme = .finish then .ok t else .error (faultAt (first rest))

theorem readCondition_of_reads {s : String} {ts : List Token} {t : Words}
    (hs : numberFrom 0 (tokensOf s) = ts ++ [.finish]) (h : TermReads ts t) :
    readCondition s = .ok t := by
  have hl : Loose 1 [Token.finish] := loose_of_key rfl rfl 1 []
  have ht : (phrases (ts ++ [Token.finish]).length).term 1 (ts ++ [.finish]) =
      .ok (t, [.finish]) := by
    rw [List.length_append, List.length_singleton, term_succ]
    exact h _ (Nat.le_refl _) _ hl
  simp only [readCondition, hs, ht]
  rfl

theorem readCondition_part {p : Part} {m : Nat} (h : p.Sequence 0 m) (hr : p.Regular) :
    readCondition (String.ofList p.text) = .ok p.term := by
  have hstart : IsTermPlace termWords := .inl rfl
  have hs : (String.ofList p.text).toList = pieceText (p.pieces termWords []) := by
    rw [String.toList_ofList, Part.text]
  have ht := tokensOf_pieces hs ((hr termWords).sturdy [] (.inl rfl) [] ends_nil)
    (h.plain _ hstart [])
  have hnumbered : numberFrom 0 (tokensOf (String.ofList p.text)) =
      p.tokens 0 termWords [] ++ [.finish] := by
    rw [ht, numberFrom_append]
    rfl
  exact readCondition_of_reads hnumbered (h.reads _ hstart [])

end Tabular
