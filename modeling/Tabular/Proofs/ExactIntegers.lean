import Mathlib
import Tabular.Proofs.EmbeddedOperators
import Tabular.Proofs.ParameterBinding
import Tabular.Proofs.RepeatedNames
import Tabular.Proofs.WholeNumbers

/-!
# Whole numbers from a filter to the database

A whole number that stands unquoted in a filter becomes a condition, its text again the number.
What is bound for it, as for the number of a row, is the number itself, or the statement is
refused.
-/

set_option autoImplicit false

namespace Tabular

open Decimal Sql

namespace Json

def EndsNumber (s : List Char) : Prop :=
  ∀ c ∈ s.head?, isDigit c = false ∧ c ≠ '.' ∧ c ≠ 'e' ∧ c ≠ 'E'

variable {ds rest : List Char} {acc n : Nat} {i : Int}

theorem natText_lead (h : 0 < n) : (natText n).head? ≠ some '0' := by
  induction n using Nat.strongRecOn with
  | _ n ih =>
    rw [natText]
    by_cases hsmall : n < 10
    · rw [Nat.toDigits_of_lt_base hsmall]
      simp
      omega
    · rw [Nat.toDigits_of_base_le (by decide) (Nat.le_of_not_lt hsmall),
        List.head?_append_of_ne_nil _ Nat.toDigits_ne_nil]
      exact ih (n / 10) (by omega) (by omega)

theorem significand_digits (hds : ∀ c ∈ ds, isDigit c = true) (hrest : EndsNumber rest)
    (h : natOf acc ds ≤ mostWord) : significand (ds ++ rest) acc = (natOf acc ds, 0, rest) := by
  induction ds generalizing acc with
  | nil =>
    cases rest with
    | nil => rfl
    | cons c rest =>
      have hc := (hrest c rfl).1
      rw [isDigit, Option.isSome_eq_false_iff, Option.isNone_iff_eq_none] at hc
      rw [List.nil_append, significand]
      simp only [hc]
      rfl
  | cons c ds ih =>
    obtain ⟨hc, hds⟩ := List.forall_mem_cons.1 hds
    have hdigit : digit? c = some (c.toNat - 48) := digit?_eq_some.2 ⟨hc, rfl⟩
    have hle : ¬mostWord < 10 * acc + (c.toNat - 48) :=
      Nat.not_lt.2 (Nat.le_trans (le_natOf _ ds) h)
    rw [List.cons_append, significand]
    simp only [hdigit, if_neg hle]
    exact ih hds h

/-- Digits that 64 bits hold are a whole number, whatever its sign, but for a negative zero. -/
theorem readNumber_digits (positive : Bool) (h : n ≤ mostWord) (hrest : EndsNumber rest) :
    readNumber positive (natText n ++ rest) =
      if positive then .ok (.int n, rest)
      else if n = 0 ∨ mostInt + 1 < n then .ok (.real (-(nearest n 0)), rest)
      else .ok (.int (-(n : Int)), rest) := by
  obtain ⟨c, cs, htext, hc, hdigits⟩ := natText_cons n
  have hvalue := natOf_natText n
  rw [htext] at hvalue
  have hlead : ¬(c = '0' ∧ (cs ++ rest).takeWhile isDigit ≠ []) := by
    rintro ⟨rfl, hmore⟩
    by_cases hn : 0 < n
    · apply natText_lead hn
      rw [htext]
      rfl
    · obtain rfl : n = 0 := by omega
      obtain rfl : cs = [] := (List.cons.inj (htext.symm.trans (by decide : _ = ['0']))).2
      cases rest with
      | nil => exact hmore rfl
      | cons d rest => exact hmore (List.takeWhile_cons_of_neg (by simp [(hrest d rfl).1]))
  have hread := significand_digits hdigits hrest (by rw [hvalue]; exact h)
  rw [hvalue, List.cons_append] at hread
  rw [htext, List.cons_append, readNumber, if_neg (by simp [hc]), if_neg hlead, hread]
  dsimp only
  split
  · exact absurd rfl (hrest _ rfl).2.1
  · exact absurd rfl (hrest _ rfl).2.2.1
  · exact absurd rfl (hrest _ rfl).2.2.2
  · simp

def Whole (i : Int) : Prop := -2 ^ 63 ≤ i ∧ i ≤ 2 ^ 64 - 1

instance (i : Int) : Decidable (Whole i) :=
  inferInstanceAs (Decidable (-2 ^ 63 ≤ i ∧ i ≤ 2 ^ 64 - 1))

/-- A whole number stands in a text in its digits. -/
theorem scalarAt_whole (h : Whole i) (hrest : EndsNumber rest) :
    ScalarAt (.number (.int i)) (intText i ++ rest) rest := by
  obtain ⟨hleast, hmost⟩ := h
  have hword : i.natAbs ≤ mostWord := by
    rw [mostWord]
    omega
  rw [intText]
  split
  · next hneg =>
    have hsmall : ¬(i.natAbs = 0 ∨ mostInt + 1 < i.natAbs) := by
      rw [mostInt]
      omega
    have habs : -(i.natAbs : Int) = i := by omega
    have hread := readNumber_digits false hword hrest
    rw [if_neg (by decide), if_neg hsmall, habs] at hread
    exact .negative hread
  · next hneg =>
    have habs : (i.natAbs : Int) = i := by omega
    have hread := readNumber_digits true hword hrest
    rw [if_pos rfl, habs] at hread
    obtain ⟨c, cs, htext, hc, -⟩ := natText_cons i.natAbs
    rw [htext] at hread ⊢
    exact .number hc hread

inductive WritesWhole (name : String) (i : Int) : List Char → Prop
  | mk {g₀ g₁ g₂ g₃ g₄ g₅ ts : List Char} (front : IsGap g₀) (before : IsGap g₁)
      (spelled : Spelled name.toList ts) (colon : IsGap g₂) (between : IsGap g₃) (after : IsGap g₄)
      (back : IsGap g₅) :
      WritesWhole name i (g₀ ++ '\x7b' :: (g₁ ++ '"' :: (ts ++ '"' :: (g₂ ++ ':' ::
        (g₃ ++ (intText i ++ (g₄ ++ '\x7d' :: g₅)))))))

variable {name : String} {s g : List Char}

theorem endsNumber_brace (hg : IsGap g) (rest : List Char) :
    EndsNumber (g ++ '\x7d' :: rest) := by
  have hspace : ∀ c, isSpace c = true → isDigit c = false ∧ c ≠ '.' ∧ c ≠ 'e' ∧ c ≠ 'E' := by
    intro c hc
    simp only [isSpace, Bool.or_eq_true, decide_eq_true_eq] at hc
    rcases hc with ((rfl | rfl) | rfl) | rfl <;> decide
  intro c hc
  cases g with
  | nil =>
    obtain rfl := Option.some.inj hc
    decide
  | cons d g =>
    obtain rfl := Option.some.inj hc
    exact hspace _ (hg _ List.mem_cons_self)

theorem Document.brace {members : List (String × Json)} (h : Document (.object members) s) :
    '\x7b' ∈ s := by
  obtain ⟨n, g, t, rest, -, rfl, hv, -⟩ := h
  apply List.mem_append_right
  cases n with
  | zero => cases hv
  | succ n =>
    rcases hv with hv | hv
    · cases hv
    · cases hv <;> exact List.mem_cons_self

theorem WritesWhole.document (h : WritesWhole name i s) (hi : Whole i) :
    Document (.object [(name, .number (.int i))]) s := by
  cases h with
  | @mk g₀ g₁ g₂ g₃ g₄ g₅ ts front before spelled colon between after back =>
    have hends := endsNumber_brace after g₅
    have hmember : MemberAt (ValueAt 0) (name, .number (.int i)) _ (g₄ ++ '\x7d' :: g₅) :=
      .mk before spelled colon between (scalarAt_whole hi hends)
    exact ⟨1, g₀, _, g₅, front, rfl, .inr (.members (.last hmember after)), back⟩

theorem readValue_gap (hg : IsGap g) (n : Nat) (s : List Char) :
    readValue n (g ++ s) = readValue n s := by
  have hskip : skipSpace (g ++ s) = skipSpace s := List.dropWhile_append_of_pos hg
  rw [readValue, readValue, hskip]

theorem readValue_brace (n : Nat) (body : List Char) :
    readValue (n + 1) ('\x7b' :: body) = (readMembers (readValue n) (body.length + 1) [] body).map
      fun (members, rest) => (.object (Record.ofList members), rest) := by
  rw [readValue]
  rfl

/-- An object with a whole number is read as the number. -/
theorem WritesWhole.read (h : WritesWhole name i s) (hi : Whole i) :
    Json.read s = .ok (.object [(name, .number (.int i))]) := by
  cases h with
  | @mk g₀ g₁ g₂ g₃ g₄ g₅ ts front before spelled colon between after back =>
    have hends := endsNumber_brace after g₅
    have hvalue (n : Nat) : readValue n (g₃ ++ (intText i ++ (g₄ ++ '\x7d' :: g₅))) =
        .ok (.number (.int i), g₄ ++ '\x7d' :: g₅) := by
      rw [readValue_gap between, readValue_scalar (scalarAt_whole hi hends)]
    have hmembers (n fuel : Nat) : readMembers (readValue n) (fuel + 2) []
        (g₁ ++ '"' :: (ts ++ '"' :: (g₂ ++ ':' :: (g₃ ++ (intText i ++ (g₄ ++ '\x7d' :: g₅)))))) =
        .ok ([(name, .number (.int i))], g₅) := by
      rw [readMembers, List.isEmpty_nil, nextName_first before]
      simp only [readText_spelled spelled, readColon_gap colon, hvalue]
      rw [readMembers, nextName_end after]
      rfl
    rw [Json.read, readValue_gap front, depthLimit, readValue_brace, List.length_append,
      List.length_cons, ← Nat.add_assoc, hmembers]
    show readEnd _ g₅ = _
    rw [readEnd, skipSpace_blank back]
    rfl

end Json

namespace Filter

open Json

variable {name : String} {i : Int}

def Visit.condition? : Visit → Option Condition
  | .value name v => (scalarText? v).map fun text => ⟨name, text⟩
  | .opened _ | .logic _ => none

theorem Visit.isSome_condition? (x : Visit) : x.condition?.isSome = x.isCondition := by
  cases x with
  | value name v => rw [condition?, Option.isSome_map, scalarText?_isSome, isCondition]
  | opened | logic => rfl

/-- The conditions of a filter are those at the visits of its document, in their order. -/
theorem Mirrors.leaves_eq {members : List (String × Json)} {entries : Entries}
    (h : Mirrors members entries) (depth : Nat) :
    entries.leaves = (visitsIn depth members).filterMap Visit.condition? := by
  induction h generalizing depth with
  | nil => rfl
  | logic _ _ ih =>
    rw [visitsIn, if_pos rfl, Entries.leaves, ih depth]
    rfl
  | @condition name value v members entries other text _ ih =>
    have hvalue : ∀ members, v ≠ .object members := by
      rintro members rfl
      cases text
    have hcondition : (Visit.value name v).condition? = some ⟨name, value⟩ := by
      rw [Visit.condition?, scalarText?_eq_some.2 text]
      rfl
    rw [visitsIn, if_neg other, visitsAt_scalar hvalue, Entries.leaves, leaves, ih depth,
      List.filterMap_append, List.filterMap_cons_some hcondition]
    rfl
  | group other _ _ ihn ih =>
    rw [visitsIn, if_neg other, visitsAt, Entries.leaves, leaves, ih depth, ihn (depth + 1),
      List.filterMap_append, List.filterMap_cons_none rfl]

/-- The condition at a visit stands behind as many as were visited before it. -/
theorem Mirrors.leaf_at {members : List (String × Json)} {entries : Entries}
    (h : Mirrors members entries) {before after : List Visit} {x : Visit} {c : Condition}
    (hx : visits members = before ++ x :: after) (hc : x.condition? = some c) :
    entries.leaves[conditions before]? = some c := by
  have hvisits : entries.leaves = (visits members).filterMap Visit.condition? := h.leaves_eq 1
  have hlength : (before.filterMap Visit.condition?).length = conditions before := by
    rw [List.length_filterMap_eq_countP, conditions]
    simp only [Visit.isSome_condition?]
  rw [hvisits, hx, List.filterMap_append, List.filterMap_cons_some hc, ← hlength,
    List.getElem?_append_right (Nat.le_refl _), Nat.sub_self]
  rfl

/-- The text of a number has no operator in it. -/
theorem extract_showInt (i : Int) : Operator.extract (showInt i) = (.eq, showInt i) := by
  rw [Operator.extract_plain_iff, showInt, String.toList_ofList]
  intro op _ hop
  obtain ⟨c, cs, hsql⟩ := List.exists_cons_of_ne_nil op.sql_ne_nil
  have hmem : c ∈ op.sql.toList := by
    rw [hsql]
    exact List.mem_cons_self
  have hmark : ∀ d ∈ Operator.marks, d ≠ '-' ∧ isDigit d = false := by
    simp [Operator.marks, isDigit, digit?]
  obtain ⟨hminus, hdigit⟩ := hmark c (op.mem_marks c hmem)
  rcases mem_intText (hop.subset hmem) with rfl | hc
  · exact hminus rfl
  · rw [hc] at hdigit
    cases hdigit

theorem conditionFragment_showInt {types : ColumnTypes} (h : types.get? name = some .integer)
    (i : Int) : conditionFragment types ⟨name, showInt i⟩ =
      .ok ⟨⟨name ++ "=" ++ "?", [showInt i], [.integer]⟩, 1⟩ := by
  simp only [conditionFragment, h, extract_showInt]
  rfl

theorem blank_document {s : String} {members : List (String × Json)}
    (h : Document (.object members) s.toList) : Text.blank s = false := by
  rw [Text.blank, List.all_eq_false]
  exact ⟨'\x7b', h.brace, by decide⟩

theorem mirrors_of_read {s : String} {f : Filter} {members : List (String × Json)}
    (h : read s = .ok f) (hs : Document (.object members) s.toList) :
    ∃ entries, f = .group none entries ∧
      Mirrors (Record.ofList (mergedMembers members)) entries := by
  rw [read] at h
  split at h
  · cases h
  rw [blank_document hs, if_neg Bool.false_ne_true] at h
  split at h
  · cases h
  · next v hread =>
    obtain ⟨raw, hraw, rfl⟩ := read_document hread
    obtain rfl := hraw.unique hs
    have hcomes := ofJson_object (Record.ofList (mergedMembers members))
    obtain ⟨⟨entries, count⟩, hgroup, rfl⟩ := map_eq_ok.1 h
    rw [hgroup] at hcomes
    exact ⟨entries, rfl, hcomes.2.2⟩

/-- A number that stands in a document is a condition of the filter that is read. -/
theorem leaf_of_number {s : String} {f : Filter} {members : List (String × Json)}
    (h : read s = .ok f) (hs : Document (.object members) s.toList) {before after : List Visit}
    (hx : visits (Record.ofList (mergedMembers members)) =
      before ++ .value name (.number (.int i)) :: after) :
    f.leaves[conditions before]? = some ⟨name, showInt i⟩ := by
  obtain ⟨entries, rfl, hmirrors⟩ := mirrors_of_read h hs
  exact hmirrors.leaf_at hx rfl

/-- A number alone is a filter of one condition. -/
theorem read_whole {s : String} (h : WritesWhole name i s.toList) (hi : Whole i)
    (hname : name ≠ logicName) (hsize : s.utf8ByteSize ≤ byteLimit) :
    read s = .ok (.group none (.node (.leaf ⟨name, showInt i⟩) .nil)) := by
  rw [read, if_neg (Nat.not_lt_of_le hsize), blank_document (h.document hi),
    if_neg Bool.false_ne_true, h.read hi]
  show (readGroup depthLimit 0 _).map _ = _
  rw [depthLimit, readGroup, readMembers_condition hname rfl (by decide)]
  rfl

end Filter

namespace Request

variable {table : String} {types : ColumnTypes} {r : Request} {statement : Statement} {k : Nat}

/-- The statement of a request has its values, each with its type. -/
theorem typed_statement (h : r.statement table types = .ok statement) {text : String}
    {type : ColumnType} (hk : (r.bindings types)[k]? = some (text, some type)) :
    statement.typed[k]? = some (text, type) := by
  obtain ⟨ht, hknown⟩ := known_of_statement h
  obtain rfl := Except.ok.inj (h.symm.trans (statement_known ht hknown).1)
  have htypes := congrArg (·[k]?) (filterMap_some (typed_bindings hknown))
  simp only [List.getElem?_map, hk, Option.map_some, Option.map_eq_some_iff, Option.some_inj,
    exists_eq_right] at htypes
  rw [Statement.typed, List.getElem?_zip_eq_some]
  refine ⟨?_, htypes⟩
  rw [written, List.getElem?_map, hk]
  rfl

theorem slot_statement (h : r.statement table types = .ok statement) (ho : r.Ordinary types)
    {slot : Slot} (hk : r.slots[k]? = some slot) : slot.At (tokensOf statement.sql) k := by
  obtain ⟨ht, hknown⟩ := known_of_statement h
  obtain rfl := Except.ok.inj (h.symm.trans (statement_known ht hknown).1)
  obtain ⟨hlt, -⟩ := List.getElem?_eq_some_iff.1 hk
  rw [length_slots] at hlt
  obtain ⟨slot', -, hslot', -, hat, -⟩ := (aligned_written ht hknown ho).bound k hlt
  obtain rfl := Option.some.inj (hk.symm.trans hslot')
  exact hat

/-- In every store the text of a request is one statement whose parameters have no names. -/
theorem single_statement (h : r.statement table types = .ok statement) (ho : r.Ordinary types)
    (s : Store) (hs : s.Reachable) (ps : List Prepared) (hps : s.verdict statement.sql = .ok ps) :
    ∃ p n, ps = [p] ∧ p.parameters = ⟨n, []⟩ := by
  obtain ⟨ht, hknown⟩ := known_of_statement h
  obtain rfl := Except.ok.inj (h.symm.trans (statement_known ht hknown).1)
  have hcompiles := compiles_written ht hknown ho
  obtain ⟨-, hready⟩ := hcompiles.prepared s.connection (hcompiles.known_of_reachable hs)
  rw [Store.verdict, Store.compile_eq] at hps
  obtain ⟨p, hp, rfl⟩ := hready ps hps
  exact ⟨p, _, rfl, hp.parameters⟩

inductive RowAt : Request → Int64 → Nat → Prop
  | update (id : Int64) (fields : List Field) : RowAt (.update id fields) id fields.length
  | get (id : Int64) : RowAt (.get id) id 0
  | delete (id : Int64) : RowAt (.delete id) id 0

/-- In the place of a parameter that is compared with a column a whole number is bound as it is,
or refused if it is too great. The text is always one statement whose parameters have no names. -/
structure AsksFor (types : ColumnTypes) (r : Request) (statement : Statement) (k : Nat)
    (column : String) (i : Int) : Prop where
  place : r.Ordinary types → (Slot.compared column .eq).At (tokensOf statement.sql) k
  single : r.Ordinary types → ∀ s : Store, s.Reachable → ∀ ps,
    s.verdict statement.sql = .ok ps → ∃ p n, ps = [p] ∧ p.parameters = ⟨n, []⟩
  bound : Fits i → Store.Binds statement k i
  refused : ¬Fits i → Store.Refuses statement k (showInt i)

theorem asksFor_number (h : r.statement table types = .ok statement) {column : String} {i : Int}
    (hslot : r.slots[k]? = some (.compared column .eq))
    (hbinding : (r.bindings types)[k]? = some (showInt i, some .integer)) :
    AsksFor types r statement k column i := by
  obtain ⟨hbound, hrefused⟩ := Store.binds_showInt (typed_statement h hbinding)
  exact ⟨fun ho => slot_statement h ho hslot, single_statement h, hbound, hrefused⟩

theorem RowAt.asksFor {id : Int64} (hr : r.RowAt id k)
    (h : r.statement table types = .ok statement) :
    AsksFor types r statement k "id" id.toInt := by
  cases hr with
  | update id fields =>
    apply asksFor_number h
    · rw [slots, List.getElem?_append_right (by simp)]
      simp
    · rw [bindings, List.getElem?_append_right (by simp)]
      simp [idBinding, showInt_eq_toString]
  | get id | delete id =>
    apply asksFor_number h rfl
    rw [showInt_eq_toString]
    rfl

theorem asksFor_condition {request : ListRequest} {name : String} {i : Int}
    (hleaf : request.filter.leaves[k]? = some ⟨name, showInt i⟩)
    (htype : types.get? name = some .integer)
    (h : (Request.list request).statement table types = .ok statement) :
    AsksFor types (.list request) statement k name i := by
  apply asksFor_number h
  · rw [slots, List.getElem?_map, hleaf, Option.map_some, Filter.extract_showInt]
  · rw [bindings, List.getElem?_map, hleaf, Option.map_some, Condition.binding,
      Filter.extract_showInt, htype]

end Request

open Tabular.Filter Json Request in
/-- A text is bound as a whole number just if it is the numeral of one that 64 bits hold, and then
as this number; else the run complains of it and executes nothing. So the number of a row is always
bound, and a whole number that stands unquoted in a filter is compared with its column, either as
just this number or not at all. -/
theorem integers_exact :
    (∀ text v, Store.convert .integer text = some v ↔
      ∃ i, Numeral (Text.trim text.toList) i ∧ Fits i ∧ ∃ w : Int64, v = .int w ∧ w.toInt = i) ∧
    (∀ (statement : Statement) k text, statement.typed[k]? = some (text, .integer) →
      (∀ i, Numeral (Text.trim text.toList) i → Fits i → Store.Binds statement k i) ∧
      ((∀ i, Numeral (Text.trim text.toList) i → ¬Fits i) → Store.Refuses statement k text)) ∧
    (∀ table types (r : Request) statement id k, r.RowAt id k →
      r.statement table types = .ok statement →
      Store.Binds statement k id.toInt ∧ AsksFor types r statement k "id" id.toInt) ∧
    (∀ i rest, Whole i → EndsNumber rest →
      ScalarAt (.number (.int i)) (intText i ++ rest) rest) ∧
    (∀ s f members before name i after, Filter.read s = .ok f →
      Document (.object members) s.toList →
      visits (Record.ofList (mergedMembers members)) =
        before ++ .value name (.number (.int i)) :: after →
      f.leaves[conditions before]? = some ⟨name, showInt i⟩ ∧
      ∀ types : ColumnTypes, types.get? name = some .integer →
        conditionFragment types ⟨name, showInt i⟩ =
          .ok ⟨⟨name ++ "=" ++ "?", [showInt i], [.integer]⟩, 1⟩ ∧
        ∀ table request statement, request.filter = f →
          (Request.list request).statement table types = .ok statement →
          AsksFor types (.list request) statement (conditions before) name i) ∧
    ∀ name i (s : String), Whole i → WritesWhole name i s.toList → name ≠ logicName →
      s.utf8ByteSize ≤ byteLimit →
      Filter.read s = .ok (.group none (.node (.leaf ⟨name, showInt i⟩) .nil)) ∧
        Document (.object [(name, .number (.int i))]) s.toList := by
  refine ⟨fun text v => Store.convert_integer, ?_, ?_, fun i rest => scalarAt_whole, ?_, ?_⟩
  · intro statement k text h
    exact ⟨fun i => Store.binds_numeral h, Store.refuses_other h⟩
  · intro table types r statement id k hr h
    have hasks := hr.asksFor h
    exact ⟨hasks.bound (fits_toInt id), hasks⟩
  · intro s f members before name i after h hs hx
    have hleaf := leaf_of_number h hs hx
    refine ⟨hleaf, fun types htype => ⟨conditionFragment_showInt htype i, ?_⟩⟩
    rintro table request statement rfl hstatement
    exact asksFor_condition hleaf htype hstatement
  · intro name i s hi h hname hsize
    exact ⟨read_whole h hi hname hsize, h.document hi⟩

def wideText : String := "\x7b\"age\": 9223372036854775808\x7d"

open Tabular.Filter Json in
theorem integers_exact_extremes :
    Store.convert .integer " +009223372036854775807\n" = some (.int (Int64.ofInt (2 ^ 63 - 1))) ∧
      (∃ statement, (Request.get (Int64.ofInt (-2 ^ 63))).statement "people" ⟨[]⟩ = .ok statement ∧
        Store.Binds statement 0 (-2 ^ 63)) ∧
      ∃ f statement, Filter.read wideText = .ok f ∧
        (Request.list ⟨[], f, [], 0⟩).statement "people" ⟨[("age", .integer)]⟩ = .ok statement ∧
        Store.Refuses statement 0 "9223372036854775808" := by
  obtain ⟨hconvert, -, hid, -, hleaf, hread⟩ := integers_exact
  refine ⟨?_, ?_, ?_⟩
  · refine (hconvert _ _).2 ⟨2 ^ 63 - 1, ?_, ?_, _, rfl, ?_⟩
    · have hnumeral : Numeral ('+' :: "009223372036854775807".toList) _ :=
        .plus (by decide) (by simp [isDigit, digit?])
      exact hnumeral
    · decide
    · decide
  · obtain ⟨hbinds, -⟩ := hid "people" ⟨[]⟩ _ _ _ 0 (.get (Int64.ofInt (-2 ^ 63))) rfl
    exact ⟨_, rfl, hbinds⟩
  · have hnone : IsGap [] := by simp [IsGap]
    have hblank : IsGap [' '] := by simp [IsGap, Json.isSpace]
    have hwrites : WritesWhole "age" (2 ^ 63) wideText.toList :=
      .mk hnone hnone (spelled_escaped _) hnone hblank hnone hnone
    obtain ⟨hf, hdocument⟩ :=
      hread "age" (2 ^ 63) wideText (by decide) hwrites (by decide) (by decide)
    obtain ⟨-, hrequest⟩ := hleaf _ _ _ [.opened 1] "age" (2 ^ 63) [] hf hdocument rfl
    obtain ⟨-, hasks⟩ := hrequest ⟨[("age", .integer)]⟩ rfl
    exact ⟨_, _, hf, rfl, (hasks "people" ⟨[], _, [], 0⟩ _ rfl rfl).refused (by decide)⟩

end Tabular
