import Tabular.Proofs.FilterText

/-!
# What stands in the text of a filter

What is gathered from pieces one behind the other, but not from parentheses and
combinators, is gathered from the text of a filter condition by condition, in the order
of its leaves.
-/

set_option autoImplicit false

namespace Tabular

open Sql

variable {β : Type} {R : List Piece → List β → Prop} {g : Condition → List β}

structure Gathers (R : List Piece → List β → Prop) (g : Condition → List β) : Prop where
  nil : R [] []
  append : ∀ {ps qs : List Piece} {bs cs : List β}, R ps bs → R qs cs → R (ps ++ qs) (bs ++ cs)
  combinator : ∀ q : Combinator, R [.token (.word space q.sql)] []
  enclosing : ∀ gap, R [.token (.symbol gap "(")] [] ∧ R [.token (.symbol [] ")")] []
  condition : ∀ n c excluded gap, R ((Part.condition n c).pieces excluded gap) (g c)

namespace Part

def Yields (R : List Piece → List β → Prop) (p : Part) (bs : List β) : Prop :=
  ∀ excluded gap, R (p.pieces excluded gap) bs

inductive Yield (R : List Piece → List β → Prop) : List (Combinator × Part) → List β → Prop
  | nil : Yield R [] []
  | cons {q : Combinator} {p : Part} {rest : List (Combinator × Part)} {bs cs : List β}
      (first : p.Yields R bs) (others : Yield R rest cs) : Yield R ((q, p) :: rest) (bs ++ cs)

theorem Yield.append {ps qs : List (Combinator × Part)} {bs cs : List β} (hp : Yield R ps bs)
    (hq : Yield R qs cs) : Yield R (ps ++ qs) (bs ++ cs) := by
  induction hp with
  | nil => exact hq
  | cons first _ ih =>
    rw [List.cons_append, List.append_assoc]
    exact .cons first ih

theorem Yield.followers (hg : Gathers R g) {ps : List (Combinator × Part)} {bs : List β}
    (h : Yield R ps bs) : R (ps.flatMap follower) bs := by
  induction h with
  | nil => exact hg.nil
  | @cons q p rest bs cs first _ ih =>
    exact hg.append (hg.append (hg.combinator q) (first termWords space)) ih

theorem yields_joined (hg : Gathers R g) {p : Part} {rest : List (Combinator × Part)}
    {bs cs : List β} (hp : p.Yields R bs) (h : Yield R rest cs) :
    (p.joined rest).Yields R (bs ++ cs) :=
  fun excluded gap => hg.append (hp excluded gap) (h.followers hg)

theorem yields_enclosed (hg : Gathers R g) {p : Part} {bs : List β} (hp : p.Yields R bs) :
    p.enclosed.Yields R bs := by
  intro excluded gap
  have h := hg.append (hg.append (hg.enclosing gap).1 (hp openWords [])) (hg.enclosing gap).2
  rwa [List.append_nil] at h

theorem yields_ofGroup (hg : Gathers R g) {ps : List (Combinator × Part)} {bs : List β}
    (h : Yield R ps bs) : match ofGroup ps with | none => bs = [] | some p => p.Yields R bs := by
  cases h with
  | nil => rfl
  | cons first others =>
    cases others with
    | nil =>
      rw [List.append_nil]
      exact first
    | cons second others =>
      exact yields_enclosed hg (yields_joined hg first (.cons second others))

end Part

namespace Filter

mutual

/-- From a filter it is gathered what its leaves give, in their order. -/
theorem part_yields (hg : Gathers R g) (inherited : Combinator) (before : Nat) :
    (f : Filter) → match f.part? inherited before with
      | none => f.leaves.flatMap g = []
      | some p => p.Yields R (f.leaves.flatMap g)
  | .leaf c => by
    rw [leaves, List.flatMap_singleton]
    exact hg.condition (before + 1) c
  | .group _ entries => Part.yields_ofGroup hg (parts_yield hg _ before entries)

theorem parts_yield (hg : Gathers R g) (active : Combinator) (before : Nat) :
    (entries : Entries) →
      Part.Yield R (entries.parts active before) (entries.leaves.flatMap g)
  | .nil => .nil
  | .logic rebound rest => parts_yield hg rebound before rest
  | .node first rest => by
    have hf := part_yields hg active before first
    have hr := parts_yield hg active (before + first.leafCount) rest
    rw [Entries.parts, Entries.leaves, List.flatMap_append]
    refine Part.Yield.append ?_ hr
    cases hp : first.part? active before with
    | none =>
      rw [hp] at hf
      rw [hf]
      exact .nil
    | some p =>
      rw [hp] at hf
      rw [← List.append_nil (List.flatMap g first.leaves)]
      exact .cons hf .nil

end

/-- What is gathered from the text of a whole filter. -/
theorem whole_yields (hg : Gathers R g) {f : Filter} {p : Part} (hp : f.whole? = some p) :
    p.Yields R (f.leaves.flatMap g) := by
  cases f with
  | leaf c =>
    obtain rfl := Option.some.inj hp
    rw [leaves, List.flatMap_singleton]
    exact hg.condition 1 c
  | group explicit entries =>
    have hall := parts_yield hg (explicit.getD .and) 0 entries
    rw [whole?] at hp
    rw [leaves]
    generalize entries.parts (explicit.getD .and) 0 = ps at hp hall
    generalize entries.leaves.flatMap g = bs at hall
    cases hall with
    | nil => cases hp
    | cons first others =>
      obtain rfl := Option.some.inj hp
      exact Part.yields_joined hg first others

end Filter
end Tabular
