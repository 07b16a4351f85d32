import Tabular.Proofs.FilterReading
import Tabular.Sql.Evaluation

/-!
# What a filter means

A group is the flat sequence of its parts, each joined by the combinator that is active
when it is reached, AND-runs before ORs; a nested group is one part. The clause of a
filter, read as SQL, has the same truth value wherever its conditions have theirs.
-/

set_option autoImplicit false

namespace Tabular

open Sql Sql.Reader

abbrev Truth := Option Bool

namespace Truth

def both : Truth → Truth → Truth
  | some false, _ | _, some false => some false
  | some true, some true => some true
  | _, _ => none

def either : Truth → Truth → Truth
  | some true, _ | _, some true => some true
  | some false, some false => some false
  | _, _ => none

theorem either_assoc (a b c : Truth) : either (either a b) c = either a (either b c) := by
  rcases a with _ | _ | _ <;> rcases b with _ | _ | _ <;> rcases c with _ | _ | _ <;> rfl

def runs (run : Truth) : List (Combinator × Truth) → Truth
  | [] => run
  | (.and, t) :: rest => runs (both run t) rest
  | (.or, t) :: rest => either run (runs t rest)

def ofGroup : List (Combinator × Truth) → Option Truth
  | [] => none
  | (_, t) :: rest => some (runs t rest)

end Truth

/-- The connectives of the engine are those of three values. -/
theorem truth_of_connectives (v w : Value) :
    (BinaryOp.apply .and v w).truth = Truth.both v.truth w.truth ∧
      (BinaryOp.apply .or v w).truth = Truth.either v.truth w.truth := by
  have ht (t : Truth) : (Value.ofTruth t).truth = t := by
    cases t with
    | none => rfl
    | some b => cases b <;> rfl
  exact ⟨ht _, ht _⟩

namespace Filter

mutual

/-- What a filter says, the leaf of each number having its truth; none without leaves. The
first leaf has the number after `before`. -/
def truth? (v : Nat → Truth) (inherited : Combinator) (before : Nat) : Filter → Option Truth
  | .leaf _ => some (v (before + 1))
  | .group explicit entries => Truth.ofGroup (entries.truths v (explicit.getD inherited) before)

def Entries.truths (v : Nat → Truth) (active : Combinator) (before : Nat) :
    Entries → List (Combinator × Truth)
  | .nil => []
  | .logic rebound rest => rest.truths v rebound before
  | .node first rest =>
    (first.truth? v active before).toList.map (fun t => (active, t)) ++
      rest.truths v active (before + first.leafCount)

end

def comparisons (before : Nat) : List Condition → List (BinaryOp × String × Nat)
  | [] => []
  | c :: rest =>
    ((Operator.extract c.value).1.binary, c.field, before + 1) :: comparisons (before + 1) rest

theorem comparisons_append (before : Nat) (cs ds : List Condition) :
    comparisons before (cs ++ ds) =
      comparisons before cs ++ comparisons (before + cs.length) ds := by
  induction cs generalizing before with
  | nil => rfl
  | cons c cs ih =>
    rw [List.cons_append, comparisons, ih, List.length_cons, ← Nat.add_right_comm, Nat.add_assoc]
    rfl

end Filter

namespace Sql.Term

def truth (v : Nat → Truth) : Words → Truth
  | .binary .and l r => Truth.both (truth v l) (truth v r)
  | .binary .or l r => Truth.either (truth v l) (truth v r)
  | .binary _ (.column none _ .bare) (.parameter n) => v n
  | _ => none

def comparisons : Words → List (BinaryOp × String × Nat)
  | .binary .and l r | .binary .or l r => comparisons l ++ comparisons r
  | .binary op (.column none name .bare) (.parameter n) => [(op, name, n)]
  | _ => []

theorem truth_sequence (v : Nat → Truth) (done : Option Words) (run : Words)
    (rest : List (Combinator × Words)) :
    truth v (sequence done run rest) =
      done.elim (Truth.runs (truth v run) (rest.map fun q => (q.1, truth v q.2)))
        fun d => Truth.either (truth v d)
          (Truth.runs (truth v run) (rest.map fun q => (q.1, truth v q.2))) := by
  induction rest generalizing done run with
  | nil => cases done <;> rfl
  | cons q rest ih =>
    obtain ⟨combinator, t⟩ := q
    cases combinator with
    | and => rw [sequence, ih]; rfl
    | or =>
      rw [sequence, ih]
      cases done with
      | none => rfl
      | some d => exact Truth.either_assoc _ _ _

theorem comparisons_sequence (done : Option Words) (run : Words)
    (rest : List (Combinator × Words)) :
    comparisons (sequence done run rest) =
      done.elim [] comparisons ++ comparisons run ++ rest.flatMap fun q => comparisons q.2 := by
  induction rest generalizing done run with
  | nil => cases done <;> simp [sequence, comparisons]
  | cons q rest ih =>
    obtain ⟨combinator, t⟩ := q
    cases combinator <;> cases done <;> simp [sequence, ih, comparisons]

end Sql.Term

theorem Part.truth_joined (v : Nat → Truth) (p : Part) (rest : List (Combinator × Part)) :
    (p.joined rest).term.truth v =
      Truth.runs (p.term.truth v) (rest.map fun q => (q.1, q.2.term.truth v)) := by
  rw [joined, Term.truth_sequence, List.map_map]
  rfl

theorem Part.truth_ofGroup (v : Nat → Truth) (ps : List (Combinator × Part)) :
    (Part.ofGroup ps).map (fun p => p.term.truth v) =
      Truth.ofGroup (ps.map fun q => (q.1, q.2.term.truth v)) := by
  match ps with
  | [] => rfl
  | [_] => rfl
  | (_, p) :: r :: rest => exact congrArg some (Part.truth_joined v p (r :: rest))

theorem Part.comparisons_joined (q : Combinator) (p : Part) (rest : List (Combinator × Part)) :
    (p.joined rest).term.comparisons =
      ((q, p) :: rest).flatMap fun r => r.2.term.comparisons := by
  rw [joined, Term.comparisons_sequence, List.flatMap_cons, List.flatMap_map]
  rfl

theorem Part.comparisons_ofGroup (ps : List (Combinator × Part)) :
    (Part.ofGroup ps).elim [] (fun p => p.term.comparisons) =
      ps.flatMap fun q => q.2.term.comparisons := by
  match ps with
  | [] => rfl
  | [_] => simp [Part.ofGroup]
  | (q, p) :: r :: rest => exact Part.comparisons_joined q p (r :: rest)

namespace Filter

mutual

theorem part_truth (v : Nat → Truth) (inherited : Combinator) (before : Nat) : (f : Filter) →
    f.truth? v inherited before = (f.part? inherited before).map fun p => p.term.truth v
  | .leaf c => by
    rw [truth?, part?, Option.map_some, Part.condition]
    cases (Operator.extract c.value).1 <;> rfl
  | .group explicit entries => by
    rw [truth?, part?, Part.truth_ofGroup, parts_truth]

theorem parts_truth (v : Nat → Truth) (active : Combinator) (before : Nat) :
    (entries : Entries) → entries.truths v active before =
      (entries.parts active before).map fun q => (q.1, q.2.term.truth v)
  | .nil => rfl
  | .logic rebound rest => parts_truth v rebound before rest
  | .node first rest => by
    rw [Entries.truths, Entries.parts, part_truth, parts_truth]
    cases first.part? active before <;> rfl

end

mutual

theorem part_comparisons (inherited : Combinator) (before : Nat) : (f : Filter) →
    (f.part? inherited before).elim [] (fun p => p.term.comparisons) = comparisons before f.leaves
  | .leaf c => by
    rw [part?, Option.elim, Part.condition, leaves, comparisons]
    cases (Operator.extract c.value).1 <;> rfl
  | .group explicit entries => by
    rw [part?, Part.comparisons_ofGroup, parts_comparisons]
    rfl

theorem parts_comparisons (active : Combinator) (before : Nat) : (entries : Entries) →
    (entries.parts active before).flatMap (fun q => q.2.term.comparisons) =
      comparisons before entries.leaves
  | .nil => rfl
  | .logic rebound rest => parts_comparisons rebound before rest
  | .node first rest => by
    rw [Entries.parts, Entries.leaves, List.flatMap_append, parts_comparisons, comparisons_append,
      ← part_comparisons active]
    cases first.part? active before <;> simp [leafCount]

end

/-- A whole filter means the same without the parentheses around it. -/
theorem whole_means (f : Filter) :
    (f.whole?.elim [] fun p => p.term.comparisons) = comparisons 0 f.leaves ∧
      ∀ v, f.truth? v .and 0 = f.whole?.map fun p => p.term.truth v := by
  cases f with
  | leaf c => exact ⟨part_comparisons .and 0 (.leaf c), fun v => part_truth v .and 0 (.leaf c)⟩
  | group explicit entries =>
    have hc := parts_comparisons (explicit.getD .and) 0 entries
    have ht := fun v => parts_truth v (explicit.getD .and) 0 entries
    simp only [truth?, ht, whole?, leaves]
    generalize entries.parts (explicit.getD .and) 0 = ps at hc
    cases ps with
    | nil => exact ⟨hc, fun v => rfl⟩
    | cons first rest =>
      obtain ⟨q, p⟩ := first
      exact ⟨(Part.comparisons_joined q p rest).trans hc,
        fun v => congrArg some (Part.truth_joined v p rest).symm⟩

end Filter

/-- The clause of a filter over known columns with ordinary names has a value for each
leaf, and its text, read as SQL, compares the leaves in order and means what the filter
means. Without leaves it is empty. -/
theorem clause_preserves_meaning (f : Filter) (types : ColumnTypes)
    (h : ∀ c ∈ f.leaves, (types.get? c.field).isSome ∧ isOrdinary c.field) :
    ∃ c, f.clause types = .ok c ∧
      c.values = f.leaves.map (fun c => (Operator.extract c.value).2) ∧
      (f.leaves = [] → c.sql = "") ∧
      (f.leaves ≠ [] → ∃ t, readCondition c.sql = .ok t ∧
        t.comparisons = Filter.comparisons 0 f.leaves ∧
        ∀ v : Nat → Truth, f.truth? v .and 0 = some (t.truth v)) := by
  have hclause := Filter.clause_whole types f fun c hc => (h c hc).1
  have hbare : ∀ c ∈ f.leaves, isBare openWords c.field :=
    fun c hc => bare_of_ordinary (by decide) (h c hc).2
  obtain ⟨hcomparisons, htruth⟩ := f.whole_means
  refine ⟨_, hclause, rfl, fun hl => ?_, fun hl => ?_⟩
  · rw [Filter.whole?_eq_none.2 hl]
    rfl
  · cases hp : f.whole? with
    | none => exact absurd (Filter.whole?_eq_none.1 hp) hl
    | some p =>
      rw [hp] at hcomparisons
      refine ⟨p.term, ?_, hcomparisons, fun v => ?_⟩
      · exact readCondition_part (Filter.whole_sequence hbare hp) (Filter.whole_regular hp)
      · rw [htruth, hp]
        rfl

def nestedFilter : Filter :=
  .group none (.node (.leaf ⟨"age", ">30"⟩) (.logic .or (.node
    (.group (some .and) (.node (.leaf ⟨"city", "Oslo"⟩) (.node (.leaf ⟨"rank", "2"⟩) .nil)))
    (.node (.leaf ⟨"age", "<3"⟩) .nil))))

theorem clause_preserves_meaning_nested :
    let types : ColumnTypes := ⟨[("age", .integer), ("city", .string), ("rank", .integer)]⟩
    (∀ c ∈ nestedFilter.leaves, (types.get? c.field).isSome ∧ isOrdinary c.field) ∧
      ∃ c t, nestedFilter.clause types = .ok c ∧
        c.sql = "age>? OR (city=? AND rank=?) OR age<?" ∧
        readCondition c.sql = .ok t ∧
        ∀ v, t.truth v =
          Truth.either (v 1) (Truth.either (Truth.both (v 2) (v 3)) (v 4)) := by
  intro types
  have h : ∀ c ∈ nestedFilter.leaves, (types.get? c.field).isSome ∧ isOrdinary c.field := by
    decide
  obtain ⟨c, hc, _, _, hr⟩ := clause_preserves_meaning nestedFilter types h
  obtain ⟨t, ht, _, hv⟩ := hr (by decide)
  refine ⟨h, c, t, hc, ?_, ht, fun v => (Option.some.inj (hv v)).symm⟩
  have hs : (nestedFilter.clause types).map Clause.sql =
      .ok "age>? OR (city=? AND rank=?) OR age<?" := by rfl
  rw [hc] at hs
  exact Except.ok.inj hs

end Tabular
