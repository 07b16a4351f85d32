import Mathlib.Data.List.Induction
import Tabular.Filter.Vocabulary

/-!
# Which documents are filters

A document is gone through in its own order, from the outermost object inwards and from
each member to the next. It is a filter if nothing is wrong at any visit on that way, and
else the first thing that is wrong is what is complained of.
-/

set_option autoImplicit false

namespace Tabular

def Json.isScalar : Json → Bool
  | .text _ | .number _ | .bool _ => true
  | .null | .array _ | .object _ => false

/-- What a scalar says as a text: a text itself, a number in its digits, a truth value its name. -/
inductive Json.HasText : Json → String → Prop
  | text (s : String) : HasText (.text s) s
  | int (i : Int) : HasText (.number (.int i)) (toString i)
  | real (x : Float) :
      HasText (.number (.real x))
        (Decimal.signed x (Decimal.layout ⟨-5, 16, 1, false⟩ (Decimal.shortest x)))
  | true : HasText (.bool true) "true"
  | false : HasText (.bool false) "false"

def Combinator.Named (c : Combinator) (word : String) : Prop :=
  Text.upper (Text.trimmed word) = c.sql

theorem Combinator.read_ok {word : String} {c : Combinator} :
    read word = .ok c ↔ c.Named word := by
  rw [read, Named]
  split
  · rename_i h
    cases c <;> simp [h, sql]
  · rename_i h
    cases c <;> simp [h, sql]
  · rename_i hand hor
    have hne : Text.upper (Text.trimmed word) ≠ c.sql := by
      cases c with
      | and => exact hand
      | or => exact hor
    simp [hne]

theorem Combinator.read_error {word : String} (h : ∀ c : Combinator, ¬c.Named word) :
    read word = .error (.combinator word) := by
  rw [read]
  split
  · exact absurd ‹_› (h .and)
  · exact absurd ‹_› (h .or)
  · rfl

namespace Filter

inductive Visit where
  | opened (depth : Nat)
  | logic (v : Json)
  | value (name : String) (v : Json)

mutual

def visitsAt (depth : Nat) (name : String) : Json → List Visit
  | .object members => .opened (depth + 1) :: visitsIn (depth + 1) members
  | v => [.value name v]

def visitsIn (depth : Nat) : List (String × Json) → List Visit
  | [] => []
  | (name, v) :: rest =>
    (if name = "LOGIC" then [.logic v] else visitsAt depth name v) ++ visitsIn depth rest

end

def visits (members : List (String × Json)) : List Visit := .opened 1 :: visitsIn 1 members

namespace Visit

def isCondition : Visit → Bool
  | value _ v => v.isScalar
  | opened _ | logic _ => false

end Visit

def conditions (xs : List Visit) : Nat := xs.countP Visit.isCondition

inductive Visit.Offends (before : List Visit) : Visit → InputFault → Prop
  | depth {depth : Nat} (deep : 16 < depth) : Offends before (.opened depth) (.filterTooDeep 16)
  | word {word : String} (unknown : ∀ c : Combinator, ¬c.Named word) :
      Offends before (.logic (.text word)) (.combinator word)
  | logic {v : Json} (other : ∀ word, v ≠ .text word) : Offends before (.logic v) .filterLogic
  | value (name : String) {v : Json} (other : v.isScalar = false) :
      Offends before (.value name v) (.filterValue name)
  | number (name : String) {v : Json} (scalar : v.isScalar)
      (many : 100 ≤ conditions before) : Offends before (.value name v) (.filterTooMany 100)

def Clear (xs : List Visit) : Prop :=
  ∀ before x after e, xs = before ++ x :: after → ¬Visit.Offends before x e

def FirstFault (xs : List Visit) (e : InputFault) : Prop :=
  ∃ before x after, xs = before ++ x :: after ∧ Clear before ∧ Visit.Offends before x e

structure InVocabulary (members : List (String × Json)) : Prop where
  depth : ∀ depth, .opened depth ∈ visits members → depth ≤ 16
  logic : ∀ v, .logic v ∈ visits members →
    ∃ word, v = .text word ∧ ∃ c : Combinator, c.Named word
  value : ∀ name v, .value name v ∈ visits members → v.isScalar
  number : conditions (visits members) ≤ 100

/-- The entries of a group are the members of an object, one by one and in order. -/
inductive Mirrors : List (String × Json) → Entries → Prop
  | nil : Mirrors [] .nil
  | logic {word : String} {c : Combinator} {members : List (String × Json)} {entries : Entries}
      (named : c.Named word) (rest : Mirrors members entries) :
      Mirrors (("LOGIC", .text word) :: members) (.logic c entries)
  | condition {name value : String} {v : Json} {members : List (String × Json)}
      {entries : Entries} (other : name ≠ "LOGIC") (text : v.HasText value)
      (rest : Mirrors members entries) :
      Mirrors ((name, v) :: members) (.node (.leaf ⟨name, value⟩) entries)
  | group {name : String} {inside members : List (String × Json)} {inner entries : Entries}
      (other : name ≠ "LOGIC") (nested : Mirrors inside inner)
      (rest : Mirrors members entries) :
      Mirrors ((name, .object inside) :: members) (.node (.group none inner) entries)

variable {xs ys before : List Visit} {x : Visit} {e e' : InputFault}

theorem clear_nil : Clear [] := by
  intro before x after e h
  simp at h

theorem clear_concat : Clear (xs ++ [x]) ↔ Clear xs ∧ ∀ e, ¬x.Offends xs e := by
  constructor
  · intro h
    refine ⟨fun before y after e hs => ?_, fun e => h xs x [] e rfl⟩
    exact h before y (after ++ [x]) e (by simp [hs])
  · rintro ⟨hxs, hx⟩ before y after e hs
    rcases after.eq_nil_or_concat with rfl | ⟨after, z, rfl⟩
    · obtain ⟨rfl, hy⟩ := List.append_inj' hs rfl
      obtain rfl := List.singleton_inj.1 hy
      exact hx e
    · rw [List.concat_eq_append, ← List.cons_append, ← List.append_assoc] at hs
      exact hxs before y after e (List.append_inj' hs rfl).1

theorem Clear.firstFault (h : Clear xs) (hx : x.Offends xs e) (ys : List Visit) :
    FirstFault (xs ++ x :: ys) e :=
  ⟨xs, x, ys, rfl, h, hx⟩

theorem FirstFault.append (h : FirstFault xs e) (ys : List Visit) : FirstFault (xs ++ ys) e := by
  obtain ⟨before, x, after, rfl, hclear, hx⟩ := h
  exact ⟨before, x, after ++ ys, by simp, hclear, hx⟩

theorem offends_unique (h : x.Offends before e) (h' : x.Offends before e') : e = e' := by
  cases h with
  | depth | value | number => cases h' <;> first | rfl | simp_all
  | word unknown =>
    cases h' with
    | word _ => rfl
    | logic other => exact absurd rfl (other _)
  | logic other =>
    cases h' with
    | word _ => exact absurd rfl (other _)
    | logic _ => rfl

theorem Clear.first {between tail after : List Visit} (h : Clear (before ++ between))
    (hx : x.Offends before e) (hs : x :: after = between ++ tail) : between = [] := by
  cases between with
  | nil => rfl
  | cons y between =>
    obtain rfl : x = y := (List.cons.inj hs).1
    exact absurd hx (h before x between e rfl)

theorem FirstFault.unique (h : FirstFault xs e) (h' : FirstFault xs e') : e = e' := by
  obtain ⟨before, x, after, rfl, hclear, hx⟩ := h
  obtain ⟨before', x', after', hs, hclear', hx'⟩ := h'
  have hsame : before = before' ∧ x = x' := by
    rcases List.append_eq_append_iff.1 hs with ⟨between, rfl, ht⟩ | ⟨between, rfl, ht⟩
    · obtain rfl := hclear'.first hx ht
      exact ⟨(List.append_nil _).symm, (List.cons.inj ht).1⟩
    · obtain rfl := hclear.first hx' ht
      exact ⟨List.append_nil _, (List.cons.inj ht).1.symm⟩
  obtain ⟨rfl, rfl⟩ := hsame
  exact offends_unique hx hx'

theorem conditions_concat (xs : List Visit) (x : Visit) :
    conditions (xs ++ [x]) = conditions xs + if x.isCondition then 1 else 0 := by
  rw [conditions, List.countP_append, List.countP_singleton]
  rfl

theorem conditions_lt {after : List Visit} (h : x.isCondition) :
    conditions before < conditions (before ++ x :: after) := by
  rw [conditions, conditions, List.countP_append, List.countP_cons_of_pos h]
  omega

/-- Nothing is wrong with a document that keeps to the conditions on filters. -/
theorem InVocabulary.clear {members : List (String × Json)} (h : InVocabulary members) :
    Clear (visits members) := by
  intro before x after e hs hx
  have hmem : x ∈ visits members := by simp [hs]
  cases hx with
  | depth deep =>
    have := h.depth _ hmem
    omega
  | word unknown =>
    obtain ⟨word, hw, c, hc⟩ := h.logic _ hmem
    obtain rfl := Json.text.inj hw
    exact unknown c hc
  | logic other =>
    obtain ⟨word, hw, -⟩ := h.logic _ hmem
    exact other word hw
  | value name other =>
    have hscalar := h.value _ _ hmem
    simp [other] at hscalar
  | number name scalar many =>
    have hlt : conditions before < conditions (before ++ .value name _ :: after) :=
      conditions_lt scalar
    have hnumber := h.number
    rw [← hs] at hlt
    omega

section

variable {nested : Nat → List (String × Json) → Except InputFault (Entries × Nat)}
  {count : Nat} {name word value : String} {v : Json} {c : Combinator}
  {rest members : List (String × Json)}

theorem readMembers_text (word : String) :
    readMembers nested count (("LOGIC", .text word) :: rest) =
      Combinator.read word >>= fun c =>
        readMembers nested count rest >>= fun p => .ok (.logic c p.1, p.2) :=
  if_pos rfl

theorem readMembers_word (named : c.Named word) :
    readMembers nested count (("LOGIC", .text word) :: rest) =
      readMembers nested count rest >>= fun p => .ok (.logic c p.1, p.2) := by
  rw [readMembers_text, Combinator.read_ok.2 named]
  rfl

theorem readMembers_unknown (unknown : ∀ c : Combinator, ¬c.Named word) :
    readMembers nested count (("LOGIC", .text word) :: rest) = .error (.combinator word) := by
  rw [readMembers_text, Combinator.read_error unknown]
  rfl

theorem readMembers_logic (other : ∀ word, v ≠ .text word) :
    readMembers nested count (("LOGIC", v) :: rest) = .error .filterLogic := by
  cases v with
  | text word => exact absurd rfl (other word)
  | null | bool | number | array | object => exact if_pos rfl

theorem readMembers_object (other : name ≠ "LOGIC") :
    readMembers nested count ((name, .object members) :: rest) =
      nested count members >>= fun p =>
        readMembers nested p.2 rest >>= fun q => .ok (.node (.group none p.1) q.1, q.2) :=
  if_neg other

/-- A member that is no object is a condition if it has a text and there is room for one more. -/
theorem readMembers_value (other : name ≠ "LOGIC") (hv : ∀ members, v ≠ .object members) :
    readMembers nested count ((name, v) :: rest) =
      match scalarText? v with
      | none => .error (.filterValue name)
      | some value =>
        if 100 ≤ count then .error (.filterTooMany 100)
        else readMembers nested (count + 1) rest >>= fun p =>
          .ok (.node (.leaf ⟨name, value⟩) p.1, p.2) := by
  cases v with
  | object members => exact absurd rfl (hv members)
  | null | bool | number | array | text => exact if_neg other

theorem not_object_of_text (text : scalarText? v = some value) (members : List (String × Json)) :
    v ≠ .object members := by
  rintro rfl
  cases text

theorem readMembers_condition (other : name ≠ "LOGIC") (text : scalarText? v = some value)
    (few : count < 100) :
    readMembers nested count ((name, v) :: rest) =
      readMembers nested (count + 1) rest >>= fun p =>
        .ok (.node (.leaf ⟨name, value⟩) p.1, p.2) := by
  rw [readMembers_value other (not_object_of_text text), text]
  exact if_neg (Nat.not_le_of_lt few)

theorem readMembers_many (other : name ≠ "LOGIC") (text : scalarText? v = some value)
    (many : 100 ≤ count) :
    readMembers nested count ((name, v) :: rest) = .error (.filterTooMany 100) := by
  rw [readMembers_value other (not_object_of_text text), text]
  exact if_pos many

theorem readMembers_other (other : name ≠ "LOGIC") (text : scalarText? v = none)
    (hv : ∀ members, v ≠ .object members) :
    readMembers nested count ((name, v) :: rest) = .error (.filterValue name) := by
  rw [readMembers_value other hv, text]

end

def Comes (xs : List Visit) (members : List (String × Json)) :
    Except InputFault (Entries × Nat) → Prop
  | .ok (entries, count) => Clear xs ∧ count = conditions xs ∧ Mirrors members entries
  | .error e => FirstFault xs e

theorem Comes.map {xs : List Visit} {rest members : List (String × Json)}
    {r : Except InputFault (Entries × Nat)} (h : Comes xs rest r) {g : Entries → Entries}
    (hg : ∀ entries, Mirrors rest entries → Mirrors members (g entries)) :
    Comes xs members (r >>= fun p => .ok (g p.1, p.2)) := by
  cases r with
  | error e => exact h
  | ok p =>
    obtain ⟨hclear, hcount, hmirrors⟩ := h
    exact ⟨hclear, hcount, hg _ hmirrors⟩

theorem scalarText?_isSome (v : Json) : (scalarText? v).isSome = v.isScalar := by
  cases v <;> rfl

/-- What is taken as the value of a condition is what the scalar says. -/
theorem scalarText?_eq_some {v : Json} {s : String} : scalarText? v = some s ↔ v.HasText s := by
  constructor
  · intro h
    cases v with
    | text t =>
      obtain rfl := Option.some.inj h
      exact .text t
    | number n =>
      obtain rfl := Option.some.inj h
      cases n with
      | int i =>
        rw [Json.Number.print, Decimal.showInt_eq_toString]
        exact .int i
      | real x => exact .real x
    | bool b =>
      obtain rfl := Option.some.inj h
      cases b with
      | true => exact .true
      | false => exact .false
    | null | array | object => cases h
  · intro h
    cases h with
    | int i => rw [← Decimal.showInt_eq_toString, scalarText?, Json.Number.print]
    | text | real | true | false => rfl

theorem visitsAt_scalar {v : Json} (h : ∀ members, v ≠ .object members) (depth : Nat)
    (name : String) : visitsAt depth name v = [.value name v] := by
  cases v with
  | object members => exact absurd rfl (h members)
  | null | bool | number | array | text => rw [visitsAt]; intro _ h; cases h

section

variable {depth : Nat} {nested : Nat → List (String × Json) → Except InputFault (Entries × Nat)}
  {name : String} {v : Json} {members rest : List (String × Json)}

def Reads (nested : Nat → List (String × Json) → Except InputFault (Entries × Nat)) (depth : Nat)
    (members : List (String × Json)) : Prop :=
  ∀ xs, Clear xs →
    Comes (xs ++ visitsIn depth members) members (readMembers nested (conditions xs) members)

theorem Reads.behind (hr : Reads nested depth rest) (h : Clear xs) (hx : ∀ e, ¬x.Offends xs e) :
    Comes (xs ++ x :: visitsIn depth rest) rest
      (readMembers nested (conditions xs + if x.isCondition then 1 else 0) rest) := by
  have hrest := hr (xs ++ [x]) (clear_concat.2 ⟨h, hx⟩)
  rwa [conditions_concat, List.append_assoc, List.singleton_append] at hrest

theorem Reads.logic (hr : Reads nested depth rest) (v : Json) :
    Reads nested depth (("LOGIC", v) :: rest) := by
  intro xs h
  rw [visitsIn, if_pos rfl, List.singleton_append]
  by_cases htext : ∃ word, v = .text word
  · obtain ⟨word, rfl⟩ := htext
    cases hread : Combinator.read word with
    | ok c =>
      have hc := Combinator.read_ok.1 hread
      have hx : ∀ e, ¬(Visit.logic (.text word)).Offends xs e := by
        intro e he
        cases he with
        | word unknown => exact unknown c hc
        | logic other => exact other word rfl
      rw [readMembers_word hc]
      exact (hr.behind h hx).map fun _ => .logic hc
    | error e =>
      have hunknown : ∀ c : Combinator, ¬c.Named word := by
        intro c hc
        cases (Combinator.read_ok.2 hc).symm.trans hread
      rw [readMembers_unknown hunknown]
      exact h.firstFault (.word hunknown) _
  · have hother : ∀ word, v ≠ .text word := fun word hw => htext ⟨word, hw⟩
    rw [readMembers_logic hother]
    exact h.firstFault (.logic hother) _

theorem Reads.object (hr : Reads nested depth rest) (hname : name ≠ "LOGIC")
    (hn : ∀ xs, Clear xs → Comes (xs ++ .opened (depth + 1) :: visitsIn (depth + 1) members) members
      (nested (conditions xs) members)) :
    Reads nested depth ((name, .object members) :: rest) := by
  intro xs h
  have hinner := hn xs h
  rw [visitsIn, if_neg hname, readMembers_object hname, visitsAt, ← List.append_assoc]
  cases hread : nested (conditions xs) members with
  | error e =>
    rw [hread] at hinner
    exact FirstFault.append hinner _
  | ok p =>
    rw [hread] at hinner
    obtain ⟨hclear, hcount, hmirrors⟩ := hinner
    have hrest := hr _ hclear
    rw [← hcount] at hrest
    exact hrest.map fun _ => .group hname hmirrors

theorem Reads.value (hr : Reads nested depth rest) (hname : name ≠ "LOGIC")
    (hv : ∀ members, v ≠ .object members) : Reads nested depth ((name, v) :: rest) := by
  intro xs h
  have hsome := scalarText?_isSome v
  rw [visitsIn, if_neg hname, visitsAt_scalar hv, List.singleton_append]
  cases htext : scalarText? v with
  | none =>
    rw [htext] at hsome
    rw [readMembers_other hname htext hv]
    exact h.firstFault (.value name hsome.symm) _
  | some value =>
    rw [htext] at hsome
    have hscalar : v.isScalar = true := hsome.symm
    by_cases hmany : 100 ≤ conditions xs
    · rw [readMembers_many hname htext hmany]
      exact h.firstFault (.number name hscalar hmany) _
    · have hx : ∀ e, ¬(Visit.value name v).Offends xs e := by
        intro e he
        cases he with
        | value _ other => simp [hscalar] at other
        | number _ _ many => exact hmany many
      have hrest := hr.behind h hx
      rw [if_pos (show (Visit.value name v).isCondition = true from hscalar)] at hrest
      rw [readMembers_condition hname htext (Nat.lt_of_not_le hmany)]
      exact hrest.map fun _ => .condition hname (scalarText?_eq_some.1 htext)

/-- The members of one object, if those of the objects in it are read right. -/
theorem reads_members
    (hn : ∀ xs members, Clear xs →
      Comes (xs ++ .opened (depth + 1) :: visitsIn (depth + 1) members) members
        (nested (conditions xs) members))
    (members : List (String × Json)) : Reads nested depth members := by
  induction members with
  | nil =>
    intro xs h
    rw [visitsIn, List.append_nil]
    exact ⟨h, rfl, .nil⟩
  | cons member rest ih =>
    obtain ⟨name, v⟩ := member
    by_cases hname : name = "LOGIC"
    · subst hname
      exact ih.logic v
    · by_cases hobject : ∃ members, v = .object members
      · obtain ⟨members, rfl⟩ := hobject
        exact ih.object hname fun xs => hn xs members
      · exact ih.value hname fun members hm => hobject ⟨members, hm⟩

end

/-- A group, the objects in it being read by the same rule one level deeper. -/
theorem readGroup_comes (levels : Nat) {depth : Nat} (hd : depth + levels = 17)
    (xs : List Visit) (members : List (String × Json)) (h : Clear xs) :
    Comes (xs ++ .opened depth :: visitsIn depth members) members
      (readGroup levels (conditions xs) members) := by
  induction levels generalizing depth xs members with
  | zero =>
    rw [readGroup]
    exact h.firstFault (.depth (by omega)) _
  | succ levels ih =>
    have hclear : Clear (xs ++ [.opened depth]) := clear_concat.2 ⟨h, fun e he => by
      cases he
      omega⟩
    have hcount : conditions (xs ++ [.opened depth]) = conditions xs := conditions_concat _ _
    have hmembers := reads_members (fun xs members h => ih
      (show depth + 1 + levels = 17 by omega) xs members h) members _ hclear
    rw [hcount, List.append_assoc] at hmembers
    exact hmembers

theorem mirrors_conditions {members : List (String × Json)} {entries : Entries}
    (h : Mirrors members entries) (depth : Nat) :
    conditions (visitsIn depth members) = entries.leaves.length := by
  induction h generalizing depth with
  | nil => rfl
  | logic named _ ih =>
    rw [visitsIn, if_pos rfl, Entries.leaves, ← ih depth]
    exact List.countP_cons_of_neg Bool.false_ne_true
  | @condition name value v members entries other text _ ih =>
    have hvalue : ∀ members, v ≠ .object members := by
      rintro members rfl
      cases text
    have hscalar : v.isScalar = true := by
      rw [← scalarText?_isSome, scalarText?_eq_some.2 text]
      rfl
    rw [visitsIn, if_neg other, visitsAt_scalar hvalue, Entries.leaves, leaves,
      List.length_append, ← ih depth, Nat.add_comm]
    exact List.countP_cons_of_pos hscalar
  | group other _ _ ihn ih =>
    rw [visitsIn, if_neg other, visitsAt, Entries.leaves, leaves, List.length_append,
      ← ih depth, ← ihn (depth + 1)]
    exact List.countP_append.trans (congrArg (· + _) (List.countP_cons_of_neg Bool.false_ne_true))

theorem ofJson_object (members : List (String × Json)) :
    Comes (visits members) members (readGroup depthLimit 0 members) :=
  readGroup_comes depthLimit rfl [] members clear_nil

end Filter
end Tabular
