import Tabular.Proofs.FilterDocument
import Tabular.Proofs.JsonDocument
import Tabular.Proofs.Records

/-!
# Names written more than once

The entries of a filter are the members of the document that its text stands for, as they
are written, if and only if no object writes a name twice. A name written twice has its
first place and its last value, so that a condition or a combinator is lost.
-/

set_option autoImplicit false

namespace Tabular

namespace Json

inductive NamesDistinct : Json → Prop
  | other {v : Json} (h : ∀ members, v ≠ .object members) : NamesDistinct v
  | object {members : List (String × Json)} (distinct : (members.map Prod.fst).Nodup)
      (inside : ∀ m ∈ members, NamesDistinct m.2) : NamesDistinct (.object members)

theorem names_merged (members : List (String × Json)) :
    (mergedMembers members).map Prod.fst = members.map Prod.fst := by
  induction members with
  | nil => rfl
  | cons m rest ih => exact congrArg (m.1 :: ·) ih

theorem merged_distinct {members : List (String × Json)} (h : (members.map Prod.fst).Nodup) :
    Record.ofList (mergedMembers members) = mergedMembers members :=
  Record.ofList_of_nodup (names_merged members ▸ h)

end Json

namespace Filter

open Json

def Entries.length : Entries → Nat
  | .nil => 0
  | .node _ rest => rest.length + 1
  | .logic _ rest => rest.length + 1

theorem Mirrors.length_eq {members : List (String × Json)} {entries : Entries}
    (h : Mirrors members entries) : entries.length = members.length := by
  induction h with
  | nil => rfl
  | logic _ _ ih | condition _ _ _ ih => exact congrArg (· + 1) ih
  | group _ _ _ _ ih => exact congrArg (· + 1) ih

theorem scalarText?_merged (v : Json) : scalarText? v.merged = scalarText? v := by
  cases v <;> rfl

theorem merged_eq_text {v : Json} {word : String} (h : v.merged = .text word) :
    v = .text word := by
  cases v <;> first | exact h | cases h

theorem merged_eq_object {v : Json} {members : List (String × Json)}
    (h : v.merged = .object members) :
    ∃ raw, v = .object raw ∧ members = Record.ofList (mergedMembers raw) := by
  cases v with
  | object raw => exact ⟨raw, rfl, (Json.object.inj h).symm⟩
  | null | bool | number | text | array => cases h

/-- As long as no name is repeated, members put together have the entries that they have as
they are written. -/
theorem mirrors_written {together : List (String × Json)} {entries : Entries}
    (h : Mirrors together entries) {members : List (String × Json)}
    (hm : together = mergedMembers members) (hd : ∀ m ∈ members, NamesDistinct m.2) :
    Mirrors members entries := by
  induction h generalizing members with
  | nil =>
    cases members with
    | nil => exact .nil
    | cons m rest => cases hm
  | logic named _ ih =>
    cases members with
    | nil => cases hm
    | cons m rest =>
      obtain ⟨hfirst, hrest⟩ := List.cons.inj hm
      obtain ⟨hname, hv⟩ := Prod.mk.inj hfirst
      obtain ⟨name, v⟩ := m
      obtain rfl : "LOGIC" = name := hname
      obtain rfl := merged_eq_text hv.symm
      exact .logic named (ih hrest fun n hn => hd n (List.mem_cons_of_mem _ hn))
  | condition other text _ ih =>
    cases members with
    | nil => cases hm
    | cons m rest =>
      obtain ⟨hfirst, hrest⟩ := List.cons.inj hm
      obtain ⟨name, v⟩ := m
      obtain ⟨rfl, rfl⟩ := Prod.mk.inj hfirst
      rw [← scalarText?_eq_some, scalarText?_merged, scalarText?_eq_some] at text
      exact .condition other text (ih hrest fun n hn => hd n (List.mem_cons_of_mem _ hn))
  | group other _ _ ihn ih =>
    cases members with
    | nil => cases hm
    | cons m rest =>
      obtain ⟨hfirst, hrest⟩ := List.cons.inj hm
      obtain ⟨name, v⟩ := m
      obtain ⟨rfl, hv⟩ := Prod.mk.inj hfirst
      obtain ⟨raw, rfl, hinside⟩ := merged_eq_object hv.symm
      cases hd _ (List.mem_cons_self ..) with
      | other hobject => exact absurd rfl (hobject raw)
      | object distinct inside =>
        rw [merged_distinct distinct] at hinside
        exact .group other (ihn hinside inside)
          (ih hrest fun n hn => hd n (List.mem_cons_of_mem _ hn))

theorem distinct_of_lengths {members : List (String × Json)} {entries : Entries}
    (h : Mirrors members entries)
    (hm : Mirrors (Record.ofList (mergedMembers members)) entries) :
    (members.map Prod.fst).Nodup := by
  rw [← names_merged]
  apply Record.nodup_of_length
  rw [← hm.length_eq, h.length_eq, ← List.length_map Prod.fst, ← names_merged, List.length_map]

/-- If the members as they are written have the same entries as members put together, then
no object inside them repeats a name. -/
theorem distinct_inside {members : List (String × Json)} {entries : Entries}
    (h : Mirrors members entries) (hm : Mirrors (mergedMembers members) entries) :
    ∀ m ∈ members, NamesDistinct m.2 := by
  induction h with
  | nil => simp
  | logic _ _ ih =>
    cases hm with
    | logic _ hrest => exact List.forall_mem_cons.2 ⟨.other nofun, ih hrest⟩
  | condition _ text _ ih =>
    generalize htogether : mergedMembers _ = together at hm
    cases hm with
    | condition _ _ hrest =>
      refine List.forall_mem_cons.2 ⟨.other ?_, ih ((List.cons.inj htogether).2 ▸ hrest)⟩
      rintro inside rfl
      cases text
  | group _ nested _ ihn ih =>
    cases hm with
    | group _ hnested hrest =>
      have hdistinct := distinct_of_lengths nested hnested
      rw [merged_distinct hdistinct] at hnested
      exact List.forall_mem_cons.2 ⟨.object hdistinct (ihn hnested), ih hrest⟩

theorem mirrors_iff_distinct {members : List (String × Json)} {entries : Entries}
    (hm : Mirrors (Record.ofList (mergedMembers members)) entries) :
    Mirrors members entries ↔ NamesDistinct (.object members) := by
  constructor
  · intro h
    have hdistinct := distinct_of_lengths h hm
    rw [merged_distinct hdistinct] at hm
    exact .object hdistinct (distinct_inside h hm)
  · intro hd
    cases hd with
    | other hobject => exact absurd rfl (hobject members)
    | object distinct inside =>
      rw [merged_distinct distinct] at hm
      exact mirrors_written hm rfl inside

/-- A text that is read as a filter is blank or stands for a document. Its entries are the members
of the document put together, and they are the members as they are written just if no object
repeats a name; then there are as many conditions as are written. -/
theorem read_keeps_iff_distinct {s : String} {f : Filter} (h : read s = .ok f) :
    (Text.blank s ∧ f = all) ∨
      ∃ members entries, f = .group none entries ∧
        Document (.object members) s.toList ∧
        (∀ v, Document v s.toList → v = .object members) ∧
        Mirrors (Record.ofList (mergedMembers members)) entries ∧
        (Mirrors members entries ↔ NamesDistinct (.object members)) ∧
        (NamesDistinct (.object members) → f.leafCount = conditions (visits members)) := by
  rw [read] at h
  split at h
  · cases h
  split at h
  · rename_i hblank
    exact .inl ⟨hblank, (Except.ok.inj h).symm⟩
  split at h
  · cases h
  rename_i v hread
  obtain ⟨raw, hdocument, rfl⟩ := read_document hread
  cases hv : raw.merged with
  | object together =>
    obtain ⟨members, rfl, rfl⟩ := merged_eq_object hv
    have hcomes := ofJson_object (Record.ofList (mergedMembers members))
    rw [hv, ofJson] at h
    obtain ⟨⟨entries, count⟩, hgroup, rfl⟩ := map_eq_ok.1 h
    rw [hgroup] at hcomes
    obtain ⟨-, -, hmirrors⟩ := hcomes
    refine .inr ⟨members, entries, rfl, hdocument, fun v hv => hv.unique hdocument, hmirrors,
      mirrors_iff_distinct hmirrors, fun hdistinct => ?_⟩
    have hwritten := (mirrors_iff_distinct hmirrors).2 hdistinct
    exact (mirrors_conditions hwritten 1).symm
  | null | bool | number | text | array =>
    rw [hv] at h
    cases h

theorem textMember {W : Json → List Char → List Char → Prop}
    (hW : ∀ {v s rest}, ScalarAt v s rest → W v s rest) {g : List Char} (hg : IsGap g)
    (name value : String) {rest : List Char} :
    MemberAt W (name, .text value)
      (g ++ '"' :: (name.toList.flatMap escapedChar ++ '"' :: ([] ++ ':' :: ([' '] ++
        '"' :: (value.toList.flatMap escapedChar ++ '"' :: rest))))) rest := by
  have hnone : IsGap [] := by simp [IsGap]
  have hblank : IsGap [' '] := by simp [IsGap, isSpace]
  have hvalue : ScalarAt (.text value) _ rest := .text (spelled_escaped value.toList) rest
  exact .mk hg (spelled_escaped name.toList) hnone hblank (hW hvalue)

def nestedText : String :=
  "\x7b\"a\": \"1\", \"LOGIC\": \"or\", \"g\": \x7b\"a\": \"2\"\x7d\x7d"

def nestedMembers : List (String × Json) :=
  [("a", .text "1"), ("LOGIC", .text "or"), ("g", .object [("a", .text "2")])]

def nestedEntries : Entries :=
  .node (.leaf ⟨"a", "1"⟩) (.logic .or (.node (.group none (.node (.leaf ⟨"a", "2"⟩) .nil)) .nil))

theorem document_nested : Document (.object nestedMembers) nestedText.toList := by
  have hnone : IsGap [] := by simp [IsGap]
  have hblank : IsGap [' '] := by simp [IsGap, isSpace]
  have hname : Spelled "g".toList ['g'] := spelled_escaped _
  have hgroup : ValueAt 1 (.object [("a", .text "2")]) _ ([] ++ ['\x7d']) :=
    .inr (.members (.last (textMember id hnone "a" "2") hnone))
  have hlast : MemberAt (ValueAt 1) _ _ _ := .mk hblank hname hnone hblank hgroup
  have hmembers : MembersAt (ValueAt 1) nestedMembers _ [] :=
    .more (textMember .inl hnone "a" "1") hnone
      (.more (textMember .inl hblank "LOGIC" "or") hnone (.last hlast hnone))
  refine ⟨2, [], _, [], hnone, ?_, .inr (.members hmembers), hnone⟩
  decide

theorem read_nested : read nestedText = .ok (.group none nestedEntries) := by
  have hjson : Json.read nestedText.toList = .ok (.object nestedMembers) := rfl
  rw [read, if_neg (by decide), if_neg (by decide), hjson]
  rfl

theorem distinct_nested : NamesDistinct (.object nestedMembers) := by
  have hword : ∀ t, NamesDistinct (.text t) := fun _ => .other nofun
  have hgroup : NamesDistinct (.object [("a", .text "2")]) := by
    refine .object (by decide) ?_
    simpa using hword "2"
  refine .object (by decide) ?_
  simpa [nestedMembers] using ⟨hword "1", hword "or", hgroup⟩

theorem read_keeps_iff_distinct_nested :
    read nestedText = .ok (.group none nestedEntries) ∧
      Document (.object nestedMembers) nestedText.toList ∧
      NamesDistinct (.object nestedMembers) ∧ Mirrors nestedMembers nestedEntries ∧
      (group none nestedEntries).leafCount = conditions (visits nestedMembers) := by
  rcases read_keeps_iff_distinct read_nested with
    ⟨hblank, -⟩ | ⟨members, entries, hf, -, hunique, -, hmirrors, hcount⟩
  · exact absurd hblank (by decide)
  · obtain ⟨-, rfl⟩ := Filter.group.inj hf
    obtain rfl := Json.object.inj (hunique _ document_nested)
    exact ⟨read_nested, document_nested, distinct_nested, hmirrors.2 distinct_nested,
      hcount distinct_nested⟩

def rangeText : String := "\x7b\"age\": \">=18\", \"age\": \"<50\"\x7d"

def rangeMembers : List (String × Json) := [("age", .text ">=18"), ("age", .text "<50")]

def rangeEntries : Entries := .node (.leaf ⟨"age", "<50"⟩) .nil

/-- Of two bounds on one name the first is lost. -/
theorem range_loses_bound :
    Document (.object rangeMembers) rangeText.toList ∧
      read rangeText = .ok (.group none rangeEntries) ∧ ¬Mirrors rangeMembers rangeEntries ∧
      (group none rangeEntries).leafCount = 1 ∧ conditions (visits rangeMembers) = 2 := by
  have hnone : IsGap [] := by simp [IsGap]
  have hblank : IsGap [' '] := by simp [IsGap, isSpace]
  have hmembers : MembersAt ScalarAt rangeMembers _ [] :=
    .more (textMember id hnone "age" ">=18") hnone
      (.last (textMember id hblank "age" "<50") hnone)
  have hjson : Json.read rangeText.toList = .ok (.object [("age", .text "<50")]) := rfl
  refine ⟨⟨1, [], _, [], hnone, ?_, .inr (.members hmembers), hnone⟩, ?_, ?_, rfl, by decide⟩
  · decide
  · rw [read, if_neg (by decide), if_neg (by decide), hjson]
    rfl
  · intro h
    exact absurd h.length_eq (by decide)

end Filter
end Tabular
