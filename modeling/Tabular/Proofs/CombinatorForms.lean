import Mathlib.Logic.Basic
import Mathlib.Logic.Relation
import Tabular.Filter.Clause
import Tabular.Proofs.Results

/-!
# Ways of writing combinators

A group can name its combinator, begin with it as an entry, or take it over from where it
stands. Which of these it does makes no difference to the clause, and what a group says of
combinators ends with the group.
-/

set_option autoImplicit false

namespace Tabular.Filter

mutual

/-- The second filter is the first one, where a group inside of it or itself may name the
combinator that it would take over, or begin with the one that it named. -/
inductive Respelled : Combinator → Filter → Filter → Prop
  | leaf (inherited : Combinator) (c : Condition) : Respelled inherited (.leaf c) (.leaf c)
  | kept {inherited : Combinator} (explicit : Option Combinator) {entries others : Entries}
      (h : Entries.Respelled (explicit.getD inherited) entries others) :
      Respelled inherited (.group explicit entries) (.group explicit others)
  | named {inherited : Combinator} {entries others : Entries}
      (h : Entries.Respelled inherited entries others) :
      Respelled inherited (.group none entries) (.group (some inherited) others)
  | entered {inherited q : Combinator} {entries others : Entries}
      (h : Entries.Respelled q entries others) :
      Respelled inherited (.group (some q) entries) (.group none (.logic q others))

inductive Entries.Respelled : Combinator → Entries → Entries → Prop
  | nil (active : Combinator) : Entries.Respelled active .nil .nil
  | node {active : Combinator} {f g : Filter} {rest others : Entries}
      (first : Filter.Respelled active f g) (h : Entries.Respelled active rest others) :
      Entries.Respelled active (.node f rest) (.node g others)
  | logic {active rebound : Combinator} {rest others : Entries}
      (h : Entries.Respelled rebound rest others) :
      Entries.Respelled active (.logic rebound rest) (.logic rebound others)

end

mutual

def named (inherited : Combinator) : Filter → Filter
  | .leaf c => .leaf c
  | .group explicit entries =>
    .group (some (explicit.getD inherited)) (entries.named (explicit.getD inherited))

def Entries.named (active : Combinator) : Entries → Entries
  | .nil => .nil
  | .logic rebound rest => .logic rebound (rest.named rebound)
  | .node first rest => .node (first.named active) (rest.named active)

end

mutual

def unnamed : Filter → Filter
  | .leaf c => .leaf c
  | .group none entries => .group none entries.unnamed
  | .group (some q) entries => .group none (.logic q entries.unnamed)

def Entries.unnamed : Entries → Entries
  | .nil => .nil
  | .logic rebound rest => .logic rebound rest.unnamed
  | .node first rest => .node first.unnamed rest.unnamed

end

mutual

def explicits : Filter → List (Option Combinator)
  | .leaf _ => []
  | .group explicit entries => explicit :: entries.explicits

def Entries.explicits : Entries → List (Option Combinator)
  | .nil => []
  | .logic _ rest => rest.explicits
  | .node first rest => first.explicits ++ rest.explicits

end

mutual

theorem respelled_named (inherited : Combinator) :
    (f : Filter) → Respelled inherited f (f.named inherited)
  | .leaf c => .leaf inherited c
  | .group none entries => .named (entries_respelled_named inherited entries)
  | .group (some q) entries => .kept (some q) (entries_respelled_named q entries)

theorem entries_respelled_named (active : Combinator) :
    (entries : Entries) → Entries.Respelled active entries (entries.named active)
  | .nil => .nil active
  | .logic rebound rest => .logic (entries_respelled_named rebound rest)
  | .node first rest => .node (respelled_named active first) (entries_respelled_named active rest)

end

mutual

theorem respelled_unnamed (inherited : Combinator) :
    (f : Filter) → Respelled inherited f f.unnamed
  | .leaf c => .leaf inherited c
  | .group none entries => .kept none (entries_respelled_unnamed inherited entries)
  | .group (some q) entries => .entered (entries_respelled_unnamed q entries)

theorem entries_respelled_unnamed (active : Combinator) :
    (entries : Entries) → Entries.Respelled active entries entries.unnamed
  | .nil => .nil active
  | .logic rebound rest => .logic (entries_respelled_unnamed rebound rest)
  | .node first rest =>
    .node (respelled_unnamed active first) (entries_respelled_unnamed active rest)

end

mutual

theorem explicits_named (inherited : Combinator) :
    (f : Filter) → ∀ explicit ∈ (f.named inherited).explicits, explicit.isSome
  | .leaf _ => fun _ h => nomatch h
  | .group explicit entries => by
    rw [named, explicits, List.forall_mem_cons]
    exact ⟨rfl, entries_explicits_named _ entries⟩

theorem entries_explicits_named (active : Combinator) :
    (entries : Entries) → ∀ explicit ∈ (entries.named active).explicits, explicit.isSome
  | .nil => fun _ h => nomatch h
  | .logic rebound rest => entries_explicits_named rebound rest
  | .node first rest => by
    rw [Entries.named, Entries.explicits, List.forall_mem_append]
    exact ⟨explicits_named active first, entries_explicits_named active rest⟩

end

mutual

theorem explicits_unnamed : (f : Filter) → ∀ explicit ∈ f.unnamed.explicits, explicit = none
  | .leaf _ => fun _ h => nomatch h
  | .group none entries | .group (some q) entries => by
    rw [unnamed, explicits, List.forall_mem_cons]
    exact ⟨rfl, entries_explicits_unnamed entries⟩

theorem entries_explicits_unnamed :
    (entries : Entries) → ∀ explicit ∈ entries.unnamed.explicits, explicit = none
  | .nil => fun _ h => nomatch h
  | .logic _ rest => entries_explicits_unnamed rest
  | .node first rest => by
    rw [Entries.unnamed, Entries.explicits, List.forall_mem_append]
    exact ⟨explicits_unnamed first, entries_explicits_unnamed rest⟩

end

variable {types : ColumnTypes}

mutual

theorem fragment_respelled {inherited : Combinator} {f g : Filter} (h : Respelled inherited f g) :
    g.fragment types inherited = f.fragment types inherited :=
  match h with
  | .leaf _ _ => rfl
  | .kept explicit h => by rw [fragment, fragment, fragments_respelled h]
  | .named h => by
    rw [fragment, fragment, Option.getD_some, Option.getD_none, fragments_respelled h]
  | .entered h => by
    rw [fragment, fragment, Entries.fragment, Option.getD_some, fragments_respelled h]

theorem fragments_respelled {active : Combinator} {entries others : Entries}
    (h : Entries.Respelled active entries others) (started : Bool) :
    others.fragment types active started = entries.fragment types active started :=
  match h with
  | .nil _ => rfl
  | .node first h => by
    rw [Entries.fragment, Entries.fragment, fragment_respelled first, fragments_respelled h,
      fragments_respelled h]
  | .logic h => by rw [Entries.fragment, Entries.fragment, fragments_respelled h]

end

theorem clause_respelled {f g : Filter} (h : Respelled .and f g) :
    f.clause types = g.clause types := by
  cases h with
  | leaf _ c => rfl
  | kept explicit h => rw [clause, clause, fragments_respelled h]
  | named h => rw [clause, clause, Option.getD_some, Option.getD_none, fragments_respelled h]
  | entered h => rw [clause, clause, Entries.fragment, Option.getD_some, fragments_respelled h]

def Entries.active (before : Combinator) : Entries → Combinator
  | .nil => before
  | .logic rebound rest => rest.active rebound
  | .node _ rest => rest.active before

def Entries.append : Entries → Entries → Entries
  | .nil, back => back
  | .logic rebound rest, back => .logic rebound (rest.append back)
  | .node first rest, back => .node first (rest.append back)

def Fragment.followedBy (a b : Fragment) : Fragment :=
  ⟨⟨a.clause.sql ++ b.clause.sql, a.clause.values ++ b.clause.values,
    a.clause.types ++ b.clause.types⟩, a.terms + b.terms⟩

theorem Fragment.empty_followedBy (r : Fragment) :
    Fragment.followedBy ⟨.empty, 0⟩ r = r := by
  simp [followedBy, Clause.empty]

theorem Fragment.before_followedBy (part a b : Fragment) (separator : String) :
    (part.before separator a).followedBy b = part.before separator (a.followedBy b) := by
  simp [followedBy, before, String.append_assoc, Nat.add_right_comm]

/-- Entries behind others take over the combinator behind these. -/
theorem fragments_append (front back : Entries) (active : Combinator) (started : Bool) :
    (front.append back).fragment types active started =
      (front.fragment types active started).bind fun a =>
        (back.fragment types (front.active active) (started || a.terms ≠ 0)).map a.followedBy :=
  match front with
  | .nil => by
    have hstart : (started || decide ((⟨.empty, 0⟩ : Fragment).terms ≠ 0)) = started := by simp
    have hid : Fragment.followedBy ⟨.empty, 0⟩ = id := funext Fragment.empty_followedBy
    rw [Entries.append, Entries.fragment, Entries.active]
    simp only [Except.bind, hstart, hid]
    generalize back.fragment types active started = r
    cases r <;> rfl
  | .logic rebound rest => fragments_append rest back rebound started
  | .node first rest => by
    rw [Entries.append, Entries.fragment, Entries.fragment, Entries.active]
    cases hfirst : first.fragment types active with
    | error e => rfl
    | ok part =>
      simp only [bind, Except.bind]
      split
      · exact fragments_append rest back active started
      · rw [fragments_append rest back active true]
        cases rest.fragment types active true with
        | error e => rfl
        | ok others =>
          have hbegun : (part.before (separator started active) others).terms ≠ 0 :=
            Nat.succ_ne_zero _
          simp only [Except.bind, Bool.true_or, hbegun, ne_eq, not_false_eq_true, decide_true,
            Bool.or_true]
          cases back.fragment types (rest.active active) true with
          | error e => rfl
          | ok b => exact congrArg Except.ok (Fragment.before_followedBy ..).symm

/-- A filter makes the same clause or the same error in whatever ways its groups say their
combinators: each may name the one that it takes over, and a name may become its first entry.
So all of them can name one, and none has to. Entries are joined by what the entries before them
say in the same group, and by nothing inside of these. -/
theorem combinator_forms (types : ColumnTypes) (f : Filter) :
    (∀ g, Relation.EqvGen (Respelled .and) f g → f.clause types = g.clause types) ∧
    (f.clause types = (f.named .and).clause types ∧
      ∀ explicit ∈ (f.named .and).explicits, explicit.isSome) ∧
    (f.clause types = f.unnamed.clause types ∧
      ∀ explicit ∈ f.unnamed.explicits, explicit = none) ∧
    ∀ (front back : Entries) (active : Combinator) (started : Bool),
      (front.append back).fragment types active started =
        (front.fragment types active started).bind fun a =>
          (back.fragment types (front.active active) (started || a.terms ≠ 0)).map
            a.followedBy := by
  refine ⟨fun g h => ?_, ⟨clause_respelled (respelled_named .and f), explicits_named .and f⟩,
    ⟨clause_respelled (respelled_unnamed .and f), explicits_unnamed f⟩, fragments_append⟩
  exact (eq_equivalence.comap (clause types)).eqvGen_iff.1 (h.mono fun _ _ => clause_respelled)

def joined : Filter :=
  .group (some .or) (.node (.leaf ⟨"age", ">30"⟩)
    (.node (.group none (.node (.leaf ⟨"city", "Oslo"⟩) (.node (.leaf ⟨"rank", "2"⟩) .nil))) .nil))

def joinedByName : Filter :=
  .group (some .or) (.node (.leaf ⟨"age", ">30"⟩)
    (.node (.group (some .or) (.node (.leaf ⟨"city", "Oslo"⟩) (.node (.leaf ⟨"rank", "2"⟩) .nil)))
      .nil))

theorem combinator_forms_joined :
    let types : ColumnTypes := ⟨[("age", .integer), ("city", .string), ("rank", .integer)]⟩
    (joinedByName.clause types).map Clause.sql = .ok "age>? OR (city=? OR rank=?)" ∧
      (joined.unnamed.clause types).map Clause.sql = .ok "age>? OR (city=? OR rank=?)" ∧
      none ∉ (joined.named .and).explicits := by
  intro types
  obtain ⟨hrespelled, ⟨-, hnamed⟩, ⟨hunnamed, -⟩, -⟩ := combinator_forms types joined
  have hsql : (joined.clause types).map Clause.sql = .ok "age>? OR (city=? OR rank=?)" := by rfl
  have hname : Respelled .and joined joinedByName :=
    .kept (some .or) (.node (.leaf .or _) (.node
      (.named (.node (.leaf .or _) (.node (.leaf .or _) (.nil .or)))) (.nil .or)))
  refine ⟨?_, ?_, fun h => absurd (hnamed none h) (by decide)⟩
  · rw [← hrespelled _ (.rel _ _ hname), hsql]
  · rw [← hunnamed, hsql]

end Tabular.Filter
