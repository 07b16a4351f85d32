import Mathlib.Logic.Relation
import Tabular.Proofs.FilterText
import Tabular.Statement.Builder

/-!
# The form of a clause

The text of a clause is a series of comparisons and of longer series in parentheses, with a
combinator between any two. A pair of parentheses stands for each group inside of the filter
in which two entries or more have conditions. An entry that has none leaves no trace.
-/

set_option autoImplicit false

namespace Tabular.Filter

mutual

/-- A text that is one part of a group. It compares the conditions listed, and each of its pairs
of parentheses, in the order in which they open, encloses some of them. -/
inductive Factor : String → List Condition → List (List Condition) → Prop
  | comparison (c : Condition) :
      Factor (c.field ++ (Operator.extract c.value).1.sql ++ "?") [c] []
  | enclosed {text : String} {n : Nat} {cs : List Condition} {pairs : List (List Condition)}
      (h : Series text (n + 2) cs pairs) : Factor ("(" ++ text ++ ")") cs (cs :: pairs)

inductive Series : String → Nat → List Condition → List (List Condition) → Prop
  | one {text : String} {cs : List Condition} {pairs : List (List Condition)}
      (h : Factor text cs pairs) : Series text 1 cs pairs
  | more {text next : String} {n : Nat} {cs ds : List Condition}
      {pairs others : List (List Condition)} (h : Series text n cs pairs) (q : Combinator)
      (hnext : Factor next ds others) :
      Series (text ++ (" " ++ q.sql ++ " ") ++ next) (n + 1) (cs ++ ds) (pairs ++ others)

end

theorem Series.pos {text : String} {n : Nat} {cs : List Condition} {pairs : List (List Condition)}
    (h : Series text n cs pairs) : 0 < n := by
  cases h <;> omega

theorem Series.factor {text : String} {cs : List Condition} {pairs : List (List Condition)}
    (h : Series text 1 cs pairs) : Factor text cs pairs := by
  cases h with
  | one h => exact h
  | more h q hnext => exact absurd h.pos (by omega)

def Entries.filled : Entries → Nat
  | .nil => 0
  | .logic _ rest => rest.filled
  | .node first rest => (if first.isEmpty then 0 else 1) + rest.filled

mutual

def enclosures : Filter → List (List Condition)
  | .leaf _ => []
  | .group _ entries =>
    if 2 ≤ entries.filled then entries.leaves :: entries.enclosures else entries.enclosures

def Entries.enclosures : Entries → List (List Condition)
  | .nil => []
  | .logic _ rest => rest.enclosures
  | .node first rest => first.enclosures ++ rest.enclosures

end

def innerEnclosures : Filter → List (List Condition)
  | .leaf _ => []
  | .group _ entries => entries.enclosures

theorem isEmpty_iff {f : Filter} : f.isEmpty = true ↔ f.leaves = [] := by
  simp [isEmpty, leafCount]

theorem filled_eq_zero : (entries : Entries) → entries.leaves = [] → entries.filled = 0
  | .nil, _ => rfl
  | .logic _ rest, h => filled_eq_zero rest h
  | .node first rest, h => by
    obtain ⟨hfirst, hrest⟩ := List.append_eq_nil_iff.1 h
    rw [Entries.filled, if_pos (isEmpty_iff.2 hfirst), filled_eq_zero rest hrest]

mutual

theorem enclosures_leafless : (f : Filter) → f.leaves = [] → f.enclosures = []
  | .leaf _, h => nomatch h
  | .group _ entries, h => by
    have hnone := filled_eq_zero entries h
    rw [enclosures, if_neg (by omega), entries_enclosures_leafless entries h]

theorem entries_enclosures_leafless :
    (entries : Entries) → entries.leaves = [] → entries.enclosures = []
  | .nil, _ => rfl
  | .logic _ rest, h => entries_enclosures_leafless rest h
  | .node first rest, h => by
    obtain ⟨hfirst, hrest⟩ := List.append_eq_nil_iff.1 h
    rw [Entries.enclosures, enclosures_leafless first hfirst,
      entries_enclosures_leafless rest hrest]
    rfl

end

variable {types : ColumnTypes}

/-- Without conditions nothing is made, whatever is active. -/
theorem fragments_leafless {entries : Entries} (h : entries.leaves = []) (active : Combinator)
    (started : Bool) : entries.fragment types active started = .ok ⟨.empty, 0⟩ := by
  have hknown : Known types entries.leaves := by
    rw [h]
    exact fun _ hc => nomatch hc
  rw [fragment_parts active 0 entries started hknown, (parts_eq_nil active 0).2 h, h]
  rfl

theorem fragment_leafless {f : Filter} (h : f.leaves = []) (inherited : Combinator) :
    f.fragment types inherited = .ok ⟨.empty, 0⟩ := by
  cases f with
  | leaf c => cases h
  | group explicit entries =>
    rw [fragment, fragments_leafless h]
    rfl

theorem fragment_terms {inherited : Combinator} {f : Filter} {r : Fragment}
    (h : f.fragment types inherited = .ok r) (hl : f.leaves ≠ []) : r.terms = 1 := by
  have hpart := fragment_part inherited 0 f (known_of_fragment inherited f r h)
  rw [h] at hpart
  obtain rfl := Except.ok.inj hpart
  cases hp : f.part? inherited 0 with
  | none => exact absurd ((part?_eq_none inherited 0).1 hp) hl
  | some p => rfl

/-- The first entry of a group either has no conditions and leaves the rest as it is, or it is one
part in front of the others. -/
theorem fragments_node {active : Combinator} {started : Bool} {first : Filter} {rest : Entries}
    {r : Fragment} (h : (Entries.node first rest).fragment types active started = .ok r) :
    (first.leaves = [] ∧ rest.fragment types active started = .ok r) ∨
      ∃ part others, first.leaves ≠ [] ∧ first.fragment types active = .ok part ∧
        rest.fragment types active true = .ok others ∧
        r = part.before (separator started active) others := by
  rw [Entries.fragment] at h
  obtain ⟨part, hpart, h⟩ := bind_eq_ok.1 h
  by_cases hl : first.leaves = []
  · obtain rfl := Except.ok.inj ((fragment_leafless hl active).symm.trans hpart)
    exact .inl ⟨hl, h⟩
  · rw [fragment_terms hpart hl] at h
    obtain ⟨others, hothers, h⟩ := bind_eq_ok.1 h
    exact .inr ⟨part, others, hl, hpart, hothers, (Except.ok.inj h).symm⟩

mutual

/-- The text of a filter with conditions is one part of its group. -/
theorem factor_fragment {inherited : Combinator} {r : Fragment} :
    (f : Filter) → f.fragment types inherited = .ok r → f.leaves ≠ [] →
      Factor r.clause.sql f.leaves f.enclosures
  | .leaf c, h, _ => by
    rw [fragment, conditionFragment] at h
    split at h
    · cases h
    · obtain rfl := Except.ok.inj h
      exact .comparison c
  | .group explicit entries, h, hl => by
    rw [fragment] at h
    obtain ⟨inner, hinner, rfl⟩ := map_eq_ok.1 h
    obtain ⟨hterms, hseries⟩ := series_fragment entries hinner
    have hs := hseries hl
    rw [Fragment.enclosed, enclosures, ← hterms]
    by_cases hone : inner.terms ≤ 1
    · rw [if_pos hone, if_neg (by omega)]
      rw [Nat.le_antisymm hone hs.pos] at hs
      exact hs.factor
    · obtain ⟨n, hn⟩ : ∃ n, inner.terms = n + 2 := ⟨inner.terms - 2, by omega⟩
      rw [if_neg hone, if_pos (by omega)]
      rw [hn] at hs
      exact .enclosed hs

/-- The entries of a group that has begun go on with the series before them. -/
theorem series_continued {active : Combinator} {r : Fragment} :
    (entries : Entries) → entries.fragment types active true = .ok r →
      r.terms = entries.filled ∧ ∀ {text : String} {n : Nat} {cs : List Condition}
        {pairs : List (List Condition)}, Series text n cs pairs →
          Series (text ++ r.clause.sql) (n + r.terms) (cs ++ entries.leaves)
            (pairs ++ entries.enclosures)
  | .nil, h => by
    obtain rfl := Except.ok.inj h
    refine ⟨rfl, fun hs => ?_⟩
    simpa [Entries.leaves, Entries.enclosures, Clause.empty] using hs
  | .logic _ rest, h => series_continued rest h
  | .node first rest, h => by
    rw [Entries.filled, Entries.leaves, Entries.enclosures]
    rcases fragments_node h with ⟨hl, hrest⟩ | ⟨part, others, hl, hpart, hothers, rfl⟩
    · rw [if_pos (isEmpty_iff.2 hl), Nat.zero_add, hl, enclosures_leafless first hl]
      exact series_continued rest hrest
    · obtain ⟨hterms, hmore⟩ := series_continued rest hothers
      rw [if_neg (isEmpty_iff.not.2 hl), Fragment.before, hterms]
      refine ⟨Nat.add_comm _ _, fun {text n cs pairs} hs => ?_⟩
      have hall := hmore (hs.more active (factor_fragment first hpart hl))
      rw [hterms, Nat.add_assoc, Nat.add_comm 1] at hall
      simpa [separator, String.append_assoc] using hall

/-- The entries of a group are a series, of as many parts as there are filled ones. -/
theorem series_fragment {active : Combinator} {r : Fragment} :
    (entries : Entries) → entries.fragment types active false = .ok r →
      r.terms = entries.filled ∧
        (entries.leaves ≠ [] → Series r.clause.sql r.terms entries.leaves entries.enclosures)
  | .nil, h => by
    obtain rfl := Except.ok.inj h
    exact ⟨rfl, fun hl => absurd rfl hl⟩
  | .logic _ rest, h => series_fragment rest h
  | .node first rest, h => by
    rw [Entries.filled, Entries.leaves, Entries.enclosures]
    rcases fragments_node h with ⟨hl, hrest⟩ | ⟨part, others, hl, hpart, hothers, rfl⟩
    · rw [if_pos (isEmpty_iff.2 hl), Nat.zero_add, hl, enclosures_leafless first hl]
      exact series_fragment rest hrest
    · obtain ⟨hterms, hmore⟩ := series_continued rest hothers
      rw [if_neg (isEmpty_iff.not.2 hl), Fragment.before, hterms]
      refine ⟨Nat.add_comm _ _, fun _ => ?_⟩
      have hall := hmore (.one (factor_fragment first hpart hl))
      rw [hterms, Nat.add_comm 1] at hall
      simpa [separator] using hall

end

/-- The clause of a filter with conditions is a series. -/
theorem series_clause {f : Filter} {c : Clause} (h : f.clause types = .ok c) (hl : f.leaves ≠ []) :
    ∃ n, Series c.sql n f.leaves f.innerEnclosures := by
  cases f with
  | leaf d =>
    obtain ⟨r, hr, rfl⟩ := map_eq_ok.1 h
    exact ⟨1, .one (@factor_fragment types .and r (.leaf d) hr hl)⟩
  | group explicit entries =>
    obtain ⟨r, hr, rfl⟩ := map_eq_ok.1 h
    exact ⟨_, (series_fragment entries hr).2 hl⟩

theorem clause_leafless {f : Filter} (h : f.leaves = []) : f.clause types = .ok .empty := by
  cases f with
  | leaf c => cases h
  | group explicit entries =>
    rw [clause, fragments_leafless h]
    rfl

theorem clause_empty_iff {f : Filter} {c : Clause} (h : f.clause types = .ok c) :
    c.sql = "" ↔ f.leaves = [] := by
  constructor
  · intro hs
    have hclause := clause_whole types f (known_of_clause h)
    rw [h] at hclause
    obtain rfl := Except.ok.inj hclause
    cases hp : f.whole? with
    | none => exact whole?_eq_none.1 hp
    | some p =>
      have hempty : String.ofList p.text = "" := by simpa [Fragment.ofText, hp] using hs
      exact absurd (String.ofList_eq_empty_iff.1 hempty) (whole_text_ne hp)
  · intro hl
    rw [clause_leafless hl] at h
    rw [← Except.ok.inj h]
    rfl

mutual

/-- The second filter is the first one with one more entry in it, at some depth, that says
nothing: a group without conditions, a combinator behind the last condition of its group, or
one with another combinator right behind it. -/
inductive Padded : Filter → Filter → Prop
  | inside (explicit : Option Combinator) {entries others : Entries}
      (h : Entries.Padded entries others) :
      Padded (.group explicit entries) (.group explicit others)

inductive Entries.Padded : Entries → Entries → Prop
  | first {f g : Filter} (h : Filter.Padded f g) (rest : Entries) :
      Entries.Padded (.node f rest) (.node g rest)
  | behindNode (f : Filter) {rest others : Entries} (h : Entries.Padded rest others) :
      Entries.Padded (.node f rest) (.node f others)
  | behindLogic (q : Combinator) {rest others : Entries} (h : Entries.Padded rest others) :
      Entries.Padded (.logic q rest) (.logic q others)
  | emptyGroup (explicit : Option Combinator) {entries : Entries} (h : entries.leaves = [])
      (rest : Entries) : Entries.Padded rest (.node (.group explicit entries) rest)
  | lastLogic (q : Combinator) {rest : Entries} (h : rest.leaves = []) :
      Entries.Padded rest (.logic q rest)
  | repeatedLogic (q r : Combinator) (rest : Entries) :
      Entries.Padded (.logic r rest) (.logic q (.logic r rest))

end

mutual

theorem fragment_padded {f g : Filter} (h : Padded f g) (inherited : Combinator) :
    g.fragment types inherited = f.fragment types inherited :=
  match h with
  | .inside explicit h => by rw [fragment, fragment, fragments_padded h]

theorem fragments_padded {entries others : Entries} (h : Entries.Padded entries others)
    (active : Combinator) (started : Bool) :
    others.fragment types active started = entries.fragment types active started :=
  match h with
  | .first h rest => by rw [Entries.fragment, Entries.fragment, fragment_padded h]
  | .behindNode f h => by
    rw [Entries.fragment, Entries.fragment, fragments_padded h, fragments_padded h]
  | .behindLogic q h => by rw [Entries.fragment, Entries.fragment, fragments_padded h]
  | .emptyGroup explicit h rest => by
    rw [Entries.fragment, fragment_leafless (f := .group explicit _) h]
    rfl
  | .lastLogic q h => by
    rw [Entries.fragment, fragments_leafless h, fragments_leafless h]
  | .repeatedLogic q r rest => rfl

end

theorem clause_padded {f g : Filter} (h : Padded f g) : f.clause types = g.clause types := by
  cases h with
  | inside explicit h => rw [clause, clause, fragments_padded h]

/-- The clause that a filter makes is a series with a pair of parentheses for each group inside of
the filter that has two filled entries, and no others. It is empty where the filter has no
conditions, and just then a list has no WHERE. Entries that say nothing can be put in and taken
out anywhere, and the same clause or the same error comes of it. -/
theorem clause_series (types : ColumnTypes) (f : Filter) :
    (∀ c, f.clause types = .ok c →
      (c.sql = "" ∨ ∃ n, Series c.sql n f.leaves f.innerEnclosures) ∧
        (c.sql = "" ↔ f.leafCount = 0) ∧ c.isEmpty = f.isEmpty) ∧
    (∀ table request s, request.filter = f → Statement.list table request types = .ok s →
      ∃ c, f.clause types = .ok c ∧
        s.sql = "SELECT " ++ Statement.selection request.select ++ " FROM " ++ table ++
          (if f.isEmpty then "" else " WHERE " ++ c.sql) ++ Statement.orderText request.order ++
          Statement.limitText request.limit) ∧
    ∀ g, Relation.EqvGen Padded f g → f.clause types = g.clause types := by
  have hempty {c : Clause} (h : f.clause types = .ok c) : c.isEmpty = f.isEmpty := by
    rw [Bool.eq_iff_iff, isEmpty_iff, ← clause_empty_iff h, Clause.isEmpty, String.isEmpty_iff]
  refine ⟨fun c h => ⟨?_, ?_, hempty h⟩, fun table request s hf hs => ?_, fun g h => ?_⟩
  · by_cases hl : f.leaves = []
    · exact .inl ((clause_empty_iff h).2 hl)
    · exact .inr (series_clause h hl)
  · rw [clause_empty_iff h, leafCount, List.length_eq_zero_iff]
  · rw [Statement.list] at hs
    obtain ⟨-, -, hs⟩ := bind_eq_ok.1 hs
    obtain ⟨-, -, hs⟩ := bind_eq_ok.1 hs
    obtain ⟨c, hc, hs⟩ := bind_eq_ok.1 hs
    obtain ⟨-, -, hs⟩ := bind_eq_ok.1 hs
    rw [hf] at hc
    rw [← Except.ok.inj hs]
    refine ⟨c, hc, ?_⟩
    rw [Statement.whereText, hempty hc]
  · exact (eq_equivalence.comap (clause types)).eqvGen_iff.1 (h.mono fun _ _ => clause_padded)

def grouped : Filter :=
  .group none (.node (.leaf ⟨"age", ">30"⟩) (.logic .or (.node
    (.group none (.node (.leaf ⟨"city", "Oslo"⟩) (.node (.leaf ⟨"rank", "2"⟩) .nil))) .nil)))

def paddedGroup : Filter :=
  .group none (.node (.leaf ⟨"age", ">30"⟩) (.logic .or (.node (.group (some .or) .nil) (.node
    (.group none (.node (.leaf ⟨"city", "Oslo"⟩) (.node (.leaf ⟨"rank", "2"⟩) .nil))) .nil))))

theorem clause_series_padded :
    let types : ColumnTypes := ⟨[("age", .integer), ("city", .string), ("rank", .integer)]⟩
    ∃ c n, grouped.clause types = .ok c ∧ c.sql = "age>? OR (city=? OR rank=?)" ∧
      Series c.sql n grouped.leaves [[⟨"city", "Oslo"⟩, ⟨"rank", "2"⟩]] ∧
      paddedGroup.clause types = .ok c := by
  intro types
  obtain ⟨hform, -, hpadded⟩ := clause_series types grouped
  have hpad : Padded grouped paddedGroup :=
    .inside none (.behindNode _ (.behindLogic .or (.emptyGroup (some .or) rfl _)))
  have hsql : (grouped.clause types).map Clause.sql = .ok "age>? OR (city=? OR rank=?)" := by rfl
  obtain ⟨c, hc, hs⟩ := map_eq_ok.1 hsql
  obtain ⟨hempty | ⟨n, hseries⟩, -⟩ := hform c hc
  · exact absurd (hs.symm.trans hempty) (by decide)
  · exact ⟨c, n, hc, hs, hseries, (hpadded _ (.rel _ _ hpad)).symm.trans hc⟩

end Tabular.Filter
