import Mathlib.Data.Fintype.EquivFin
import Mathlib.Data.List.Nodup
import Tabular.Proofs.FilterDocument
import Tabular.Proofs.JsonGrammar

/-!
# Filters written and read back

A group is written as an object in the order of its entries: a condition as a member of
its field, a combinator as a member `LOGIC`, and a group in it as an object under a name
that is used for nothing else. Reading such a text gives the filter back.
-/

set_option autoImplicit false

namespace Tabular.Filter

mutual

def depth : Filter → Nat
  | .leaf _ => 0
  | .group _ entries => entries.depth + 1

def Entries.depth : Entries → Nat
  | .nil => 0
  | .node first rest => max first.depth rest.depth
  | .logic _ rest => rest.depth

end

mutual

def groups : Filter → List (Option Combinator × Entries)
  | .leaf _ => []
  | .group explicit entries => (explicit, entries) :: entries.groups

def Entries.groups : Entries → List (Option Combinator × Entries)
  | .nil => []
  | .node first rest => first.groups ++ rest.groups
  | .logic _ rest => rest.groups

end

namespace Entries

def fields : Entries → List String
  | .nil => []
  | .node (.leaf c) rest => c.field :: rest.fields
  | .node (.group _ _) rest => rest.fields
  | .logic _ rest => rest.fields

def switches : Entries → Nat
  | .nil => 0
  | .node _ rest => rest.switches
  | .logic _ rest => rest.switches + 1

structure Distinct (entries : Entries) : Prop where
  fields : entries.fields.Nodup
  logic : logicName ∉ entries.fields
  switches : entries.switches ≤ 1

end Entries

structure Renderable (f : Filter) : Prop where
  root : ∃ entries, f = .group none entries
  groups : ∀ g ∈ f.groups, g.1 = none ∧ g.2.Distinct
  depth : f.depth ≤ depthLimit
  number : f.leafCount ≤ conditionLimit

structure Fresh (entries : Entries) (keys : List String) : Prop where
  distinct : keys.Nodup
  fields : ∀ key ∈ keys, key ∉ entries.fields
  logic : logicName ∉ keys

/-- The members that stand for the entries of a group, one by one and in order, with the
names of the groups among them. -/
inductive Renders : Entries → List String → List (String × Json) → Prop
  | nil : Renders .nil [] []
  | logic {c : Combinator} {word : String} {entries : Entries} {keys : List String}
      {members : List (String × Json)} (named : c.Named word)
      (rest : Renders entries keys members) :
      Renders (.logic c entries) keys ((logicName, .text word) :: members)
  | condition {c : Condition} {entries : Entries} {keys : List String}
      {members : List (String × Json)} (rest : Renders entries keys members) :
      Renders (.node (.leaf c) entries) keys ((c.field, .text c.value) :: members)
  | group {key : String} {inner entries : Entries} {inside members : List (String × Json)}
      {keys keys' : List String} (nested : Renders inner keys' inside) (fresh : Fresh inner keys')
      (rest : Renders entries keys members) :
      Renders (.node (.group none inner) entries) (key :: keys) ((key, .object inside) :: members)

inductive Rendered : Filter → String → Prop
  | mk {entries : Entries} {keys : List String} {members : List (String × Json)}
      {before t after : List Char} (renders : Renders entries keys members)
      (fresh : Fresh entries keys) (blank : Json.IsGap before)
      (written : Json.Written (.object members) t) (blank' : Json.IsGap after) :
      Rendered (.group none entries) (String.ofList (before ++ (t ++ after)))

section

variable {entries : Entries} {keys : List String} {members : List (String × Json)}

/-- The members are named by the combinators, the fields and the names of groups. -/
theorem Renders.names (h : Renders entries keys members) :
    (members.map Prod.fst).Perm
      (List.replicate entries.switches logicName ++ (entries.fields ++ keys)) := by
  induction h with
  | nil => exact .nil
  | logic _ _ ih => exact ih.cons _
  | condition _ ih =>
    rw [Entries.fields, List.cons_append]
    exact (ih.cons _).trans List.perm_middle.symm
  | group _ _ _ _ ih =>
    rw [Entries.fields, Entries.switches, ← List.append_assoc]
    rw [← List.append_assoc] at ih
    exact (ih.cons _).trans List.perm_middle.symm

theorem Renders.nodup (h : Renders entries keys members) (hd : entries.Distinct)
    (hf : Fresh entries keys) : (members.map Prod.fst).Nodup := by
  rw [h.names.nodup_iff, List.nodup_append', List.nodup_append']
  refine ⟨List.nodup_replicate.2 hd.switches, ⟨hd.fields, hf.distinct, ?_⟩, ?_⟩
  · intro name hfield hkey
    exact hf.fields name hkey hfield
  · intro name hlogic hname
    obtain rfl := List.eq_of_mem_replicate hlogic
    rcases List.mem_append.1 hname with hfield | hkey
    · exact hd.logic hfield
    · exact hf.logic hkey

theorem Renders.nested (h : Renders entries keys members)
    (hg : ∀ g ∈ entries.groups, g.2.Distinct) {n : Nat} (hn : entries.depth ≤ n) :
    ∀ m ∈ members, Json.Nested n m.2 := by
  induction h generalizing n with
  | nil => simp
  | logic _ _ ih =>
    intro m hm
    rcases List.mem_cons.1 hm with rfl | hm
    · exact .text n _
    · exact ih hg hn m hm
  | condition _ ih =>
    intro m hm
    rcases List.mem_cons.1 hm with rfl | hm
    · exact .text n _
    · rw [Entries.depth, depth, Nat.zero_max] at hn
      exact ih hg hn m hm
  | @group key inner entries inside members keys keys' nested fresh _ ihn ih =>
    rw [Entries.depth, depth, Nat.max_le] at hn
    rw [Entries.groups, groups] at hg
    intro m hm
    rcases List.mem_cons.1 hm with rfl | hm
    · obtain ⟨n, rfl⟩ : ∃ k, n = k + 1 := ⟨n - 1, by omega⟩
      have hinside := ihn (fun g hm => hg g (by simp [hm])) (Nat.le_of_succ_le_succ hn.1)
      exact .object (nested.nodup (hg (none, inner) (by simp)) fresh) hinside
    · exact ih (fun g hm => hg g (by simp [hm])) hn.2 m hm

theorem Renders.mirrors (h : Renders entries keys members) (hk : logicName ∉ keys)
    (hf : logicName ∉ entries.fields) (hg : ∀ g ∈ entries.groups, g.2.Distinct) :
    Mirrors members entries := by
  induction h with
  | nil => exact .nil
  | logic named _ ih => exact .logic named (ih hk hf hg)
  | condition _ ih =>
    simp only [Entries.fields, List.mem_cons, not_or] at hf
    exact .condition (Ne.symm hf.1) (.text _) (ih hk hf.2 hg)
  | @group key inner entries inside members keys keys' _ fresh _ ihn ih =>
    simp only [List.mem_cons, not_or] at hk
    rw [Entries.groups, groups] at hg
    have hinner : inner.Distinct := hg (none, inner) (by simp)
    refine .group (Ne.symm hk.1) (ihn fresh.logic hinner.logic ?_) (ih hk.2 hf ?_)
    · exact fun g hm => hg g (by simp [hm])
    · exact fun g hm => hg g (by simp [hm])

end

/-- Members within the limits are read as the entries they mirror. -/
theorem readGroup_mirrors {members : List (String × Json)} {entries : Entries}
    (h : Mirrors members entries) {levels count : Nat} (hd : entries.depth ≤ levels)
    (hc : count + entries.leaves.length ≤ 100) :
    readGroup (levels + 1) count members = .ok (entries, count + entries.leaves.length) := by
  induction h generalizing levels count with
  | nil => rfl
  | logic named _ ih =>
    have hrest := ih hd hc
    rw [readGroup] at hrest ⊢
    rw [readMembers_word named, hrest]
    rfl
  | @condition name value v members entries other text _ ih =>
    simp only [Entries.leaves, leaves, List.singleton_append, List.length_cons] at hc
    rw [Entries.depth, depth, Nat.zero_max] at hd
    have hrest : readGroup (levels + 1) (count + 1) members =
        .ok (entries, count + 1 + entries.leaves.length) := ih hd (by omega)
    rw [readGroup] at hrest ⊢
    rw [readMembers_condition other (scalarText?_eq_some.2 text) (by omega), hrest]
    simp only [Entries.leaves, leaves, List.singleton_append, List.length_cons]
    rw [show count + 1 + entries.leaves.length = count + (entries.leaves.length + 1) by omega]
    rfl
  | @group name inside members inner entries other _ _ ihn ih =>
    simp only [Entries.leaves, leaves, List.length_append] at hc
    rw [Entries.depth, depth, Nat.max_le] at hd
    obtain ⟨levels, rfl⟩ : ∃ k, levels = k + 1 := ⟨levels - 1, by omega⟩
    have hinner : readGroup (levels + 1) count inside = .ok (inner, count + inner.leaves.length) :=
      ihn (Nat.le_of_succ_le_succ hd.1) (by omega)
    have hrest : readGroup (levels + 2) (count + inner.leaves.length) members =
        .ok (entries, count + inner.leaves.length + entries.leaves.length) := ih hd.2 (by omega)
    rw [readGroup] at hrest ⊢
    rw [readMembers_object other, hinner]
    simp only [Entries.leaves, leaves, List.length_append]
    rw [← Nat.add_assoc]
    show (readMembers _ (count + inner.leaves.length) members >>= _) = _
    rw [hrest]
    rfl

theorem Fresh.of_unused {entries : Entries} {keys : List String} (h : keys.Nodup)
    (hk : ∀ key ∈ keys, key ∉ logicName :: entries.fields) : Fresh entries keys := by
  constructor
  · exact h
  · exact fun key hkey hfield => hk key hkey (List.mem_cons_of_mem _ hfield)
  · exact fun hlogic => hk _ hlogic List.mem_cons_self

/-- Every group can be written, also if some names are already in use. -/
theorem exists_renders (entries : Entries) (hg : ∀ g ∈ entries.groups, g.1 = none)
    (used : List String) :
    ∃ keys members, Renders entries keys members ∧ keys.Nodup ∧ ∀ key ∈ keys, key ∉ used := by
  match entries with
  | .nil => exact ⟨[], [], .nil, .nil, by simp⟩
  | .logic c entries =>
    obtain ⟨keys, members, hr, hkeys⟩ := exists_renders entries hg used
    have hnamed : c.Named c.sql := by
      cases c <;> rfl
    exact ⟨keys, _, .logic hnamed hr, hkeys⟩
  | .node (.leaf c) entries =>
    obtain ⟨keys, members, hr, hkeys⟩ := exists_renders entries hg used
    exact ⟨keys, _, .condition hr, hkeys⟩
  | .node (.group explicit inner) entries =>
    rw [Entries.groups, groups] at hg
    obtain rfl : explicit = none := hg (explicit, inner) (by simp)
    obtain ⟨keys', inside, hr', hdistinct', hnew'⟩ := exists_renders inner
      (fun g hm => hg g (by simp [hm])) (logicName :: inner.fields)
    obtain ⟨keys, members, hr, hdistinct, hnew⟩ := exists_renders entries
      (fun g hm => hg g (by simp [hm])) used
    obtain ⟨key, hkey⟩ := Infinite.exists_notMem_finset (keys ++ used).toFinset
    rw [List.mem_toFinset, List.mem_append, not_or] at hkey
    have hfresh : Fresh inner keys' := .of_unused hdistinct' hnew'
    refine ⟨key :: keys, _, .group hr' hfresh hr, List.nodup_cons.2 ⟨hkey.1, hdistinct⟩, ?_⟩
    intro k hk
    rcases List.mem_cons.1 hk with rfl | hk
    · exact hkey.2
    · exact hnew k hk

/-- What is asked of the groups of a filter is asked of its outermost one and of those in it. -/
theorem Renderable.inside {explicit : Option Combinator} {entries : Entries}
    (h : Renderable (.group explicit entries)) :
    entries.Distinct ∧ ∀ g ∈ entries.groups, g.1 = none ∧ g.2.Distinct := by
  constructor
  · exact (h.groups (explicit, entries) List.mem_cons_self).2
  · intro g hg
    exact h.groups g (List.mem_cons_of_mem _ hg)

/-- The object that stands for a group is read by a reader that goes as deep as its groups. -/
theorem Renders.object {entries : Entries} {keys : List String} {members : List (String × Json)}
    (h : Renders entries keys members) (fresh : Fresh entries keys)
    {explicit : Option Combinator} (hf : Renderable (.group explicit entries)) {n : Nat}
    (hn : entries.depth ≤ n) : Json.Nested (n + 1) (.object members) := by
  obtain ⟨hd, hgroups⟩ := hf.inside
  exact .object (h.nodup hd fresh) (h.nested (fun g hg => (hgroups g hg).2) hn)

theorem Renderable.exists_rendered {f : Filter} (h : f.Renderable) : ∃ s, f.Rendered s := by
  obtain ⟨entries, rfl⟩ := h.root
  obtain ⟨keys, members, hr, hdistinct, hnew⟩ := exists_renders entries
    (fun g hg => (h.inside.2 g hg).1) (logicName :: entries.fields)
  have hfresh : Fresh entries keys := .of_unused hdistinct hnew
  have hnested := hr.object hfresh h (Nat.le_refl _)
  have hgap : Json.IsGap [] := by simp [Json.IsGap]
  exact ⟨_, .mk hr hfresh hgap (Json.written_compact hnested) hgap⟩

theorem blank_rendered {f : Filter} {s : String} (h : f.Rendered s) : Text.blank s = false := by
  cases h with
  | mk renders fresh blank written blank' =>
    cases written <;> simp [Text.blank, show Text.isBlank '\x7b' = false from rfl]

/-- Whatever way a filter is written, reading gives it back, unless the text is too long. -/
theorem read_rendered {f : Filter} (h : f.Renderable) :
    (∃ s, f.Rendered s) ∧ ∀ s, f.Rendered s →
      read s = if s.utf8ByteSize ≤ byteLimit then .ok f else .error (.filterTooLong byteLimit) := by
  refine ⟨h.exists_rendered, ?_⟩
  intro s hs
  by_cases hlong : byteLimit < s.utf8ByteSize
  · rw [read, if_pos hlong, if_neg (Nat.not_le_of_lt hlong)]
  · rw [read, if_neg hlong, blank_rendered hs, if_pos (Nat.le_of_not_lt hlong)]
    cases hs with
    | @mk entries keys members before t after renders fresh blank written blank' =>
      have hdepth : entries.depth ≤ 15 := Nat.le_of_succ_le_succ h.depth
      have hnested : Json.Nested Json.depthLimit (.object members) :=
        renders.object fresh h (Nat.le_trans hdepth (by decide))
      have hjson := Json.read_written hnested written blank blank'
      obtain ⟨hd, hgroups⟩ := h.inside
      have hmirrors := renders.mirrors fresh.logic hd.logic fun g hg => (hgroups g hg).2
      have hnumber : 0 + entries.leaves.length ≤ 100 := by
        rw [Nat.zero_add]
        exact h.number
      have hgroup := readGroup_mirrors hmirrors hdepth hnumber
      rw [String.toList_ofList, hjson]
      show (readGroup depthLimit 0 members).map _ = _
      rw [depthLimit, hgroup]
      rfl

def awkwardEntries : Entries :=
  .node (.leaf ⟨"a\"", "b\\\n\x01"⟩) (.logic .or
    (.node (.group none (.node (.leaf ⟨"é", ">= 5"⟩) .nil)) .nil))

def awkward : Filter := .group none awkwardEntries

def awkwardMembers : List (String × Json) :=
  [("a\"", .text "b\\\n\x01"), ("LOGIC", .text "OR"), ("g", .object [("é", .text ">= 5")])]

def awkwardText : String :=
  "\x7b\"a\\\"\":\"b\\\\\\n\\u0001\",\"LOGIC\":\"OR\",\"g\":\x7b\"é\":\">= 5\"\x7d\x7d"

theorem renderable_awkward : awkward.Renderable := by
  constructor
  · exact ⟨_, rfl⟩
  · intro g hg
    simp only [awkward, awkwardEntries, groups, Entries.groups, List.nil_append, List.append_nil,
      List.mem_cons, List.not_mem_nil, or_false] at hg
    rcases hg with rfl | rfl
    · exact ⟨rfl, by decide, by decide, by decide⟩
    · exact ⟨rfl, by decide, by decide, by decide⟩
  · decide
  · decide

theorem renders_awkward : Renders awkwardEntries ["g"] awkwardMembers := by
  have hinner : Renders (.node (.leaf ⟨"é", ">= 5"⟩) .nil) [] [("é", .text ">= 5")] :=
    .condition .nil
  exact .condition (.logic rfl (.group hinner ⟨by decide, by decide, by decide⟩ .nil))

theorem rendered_awkward : awkward.Rendered awkwardText := by
  have hgap : Json.IsGap [] := by simp [Json.IsGap]
  have hfresh : Fresh awkwardEntries ["g"] := ⟨by decide, by decide, by decide⟩
  have hnested : Json.Nested 2 (.object awkwardMembers) :=
    renders_awkward.object hfresh renderable_awkward (by decide)
  have hrendered := Rendered.mk renders_awkward hfresh hgap (Json.written_compact hnested) hgap
  have htext : awkwardText =
      String.ofList ([] ++ (Json.compact (.object awkwardMembers) ++ [])) := by decide
  rw [htext]
  exact hrendered

theorem read_rendered_awkward : awkward.Renderable ∧ awkward.Rendered awkwardText ∧
    read awkwardText = .ok awkward := by
  have hread := (read_rendered renderable_awkward).2 _ rendered_awkward
  rw [if_pos (by decide)] at hread
  exact ⟨renderable_awkward, rendered_awkward, hread⟩

end Tabular.Filter
