import Mathlib
import Tabular.Proofs.Occurrences
import Tabular.Proofs.Trimming
import Tabular.Statement.Definition

/-!
# Which texts define the schema

A text defines the schema where one of three words stands in it behind white space and whole
comments. The loop that passes over these is described by its turns, and it comes to one end
on every text.
-/

set_option autoImplicit false

namespace Tabular.Definition

open Tabular.Text

/-- A whole comment: a line comment with its line end, or a block comment with the first closing
mark behind its opening one. -/
inductive Comment : List Char → Prop
  | line {body : List Char} (h : '\n' ∉ body) : Comment (['-', '-'] ++ body ++ ['\n'])
  | block {body : List Char} (h : ¬ ['*', '/'] <:+: body) :
      Comment (['/', '*'] ++ body ++ ['*', '/'])

inductive Unclosed : List Char → Prop
  | line {body : List Char} (h : '\n' ∉ body) : Unclosed (['-', '-'] ++ body)
  | block {body : List Char} (h : ¬ ['*', '/'] <:+: body) : Unclosed (['/', '*'] ++ body)

inductive Gap : List Char → Prop
  | nil : Gap []
  | blank {c : Char} {s : List Char} (hc : isBlank c = true) (h : Gap s) : Gap (c :: s)
  | comment {c s : List Char} (hc : Comment c) (h : Gap s) : Gap (c ++ s)

inductive Skips : List Char → List Char → Prop
  | ends {s : List Char} (h : comment? (trimStart s) = none) : Skips s (trimStart s)
  | turn {s rest t : List Char} (h : comment? (trimStart s) = some rest) (hrest : Skips rest t) :
      Skips s t

theorem Gap.blanks {l s : List Char} (hl : ∀ c ∈ l, isBlank c = true) (h : Gap s) :
    Gap (l ++ s) := by
  induction l with
  | nil => exact h
  | cons c l ih => exact .blank (hl c List.mem_cons_self) (ih fun d hd => hl d (.tail c hd))

theorem Gap.append {g s : List Char} (hg : Gap g) (hs : Gap s) : Gap (g ++ s) := by
  induction hg with
  | nil => exact hs
  | blank hc _ ih => exact .blank hc ih
  | comment hc _ ih =>
    rw [List.append_assoc]
    exact .comment hc ih

/-- What stands before the trimmed text is white space. -/
theorem gap_trimStart (s : List Char) : ∃ g, Gap g ∧ s = g ++ trimStart s := by
  refine ⟨s.takeWhile isBlank, ?_, List.takeWhile_append_dropWhile.symm⟩
  rw [← List.append_nil (s.takeWhile isBlank)]
  exact .blanks (fun c hc => List.mem_takeWhile_imp hc) .nil

theorem cut?_line {s before rest : List Char} :
    cut? ['\n'] s = some (before, rest) ↔ s = before ++ ['\n'] ++ rest ∧ '\n' ∉ before := by
  rw [cut?_eq_some (List.cons_ne_nil _ _), List.dropLast_concat, List.singleton_infix_iff]

theorem cut?_block {s before rest : List Char} :
    cut? ['*', '/'] s = some (before, rest) ↔
      s = before ++ ['*', '/'] ++ rest ∧ ¬ ['*', '/'] <:+: before := by
  have hlast : (before ++ ['*', '/']).dropLast = before ++ ['*'] := by
    rw [List.dropLast_append_of_ne_nil (by simp)]
    rfl
  have hend : ¬ ['*', '/'] <:+ before ++ ['*'] := fun h => by
    simpa using h.getLast (List.cons_ne_nil _ _)
  rw [cut?_eq_some (List.cons_ne_nil _ _), hlast, List.infix_concat_iff, or_iff_right hend]

theorem comment?_comment {c : List Char} (h : Comment c) (rest : List Char) :
    comment? (c ++ rest) = some rest := by
  cases h with
  | line h =>
    simp only [List.cons_append, List.nil_append, comment?]
    rw [cut?_line.2 ⟨rfl, h⟩]
  | block h =>
    simp only [List.cons_append, List.nil_append, comment?]
    rw [cut?_block.2 ⟨rfl, h⟩]

theorem comment?_unclosed {s : List Char} (h : Unclosed s) : comment? s = some [] := by
  cases h with
  | line h =>
    have hcut := (cut?_eq_none (List.cons_ne_nil '\n' [])).2 (mt (List.singleton_infix_iff _ _).1 h)
    simp only [List.cons_append, List.nil_append, comment?, hcut]
  | block h =>
    have hcut := (cut?_eq_none (List.cons_ne_nil '*' ['/'])).2 h
    simp only [List.cons_append, List.nil_append, comment?, hcut]

/-- A text that the loop goes on with stands behind a whole comment, or an unclosed one has taken
everything. -/
theorem comment?_eq_some {s rest : List Char} (h : comment? s = some rest) :
    (∃ c, Comment c ∧ s = c ++ rest) ∨ Unclosed s ∧ rest = [] := by
  unfold comment? at h
  split at h
  · next body =>
    split at h
    · next front r hcut =>
      obtain ⟨rfl, hfront⟩ := cut?_line.1 hcut
      exact .inl ⟨_, .line hfront, by simp [Option.some.inj h]⟩
    · next hcut =>
      refine .inr ⟨.line fun hmem => ?_, (Option.some.inj h).symm⟩
      exact (cut?_eq_none (List.cons_ne_nil _ _)).1 hcut ((List.singleton_infix_iff _ _).2 hmem)
  · next body =>
    split at h
    · next front r hcut =>
      obtain ⟨rfl, hfront⟩ := cut?_block.1 hcut
      exact .inl ⟨_, .block hfront, by simp [Option.some.inj h]⟩
    · next hcut =>
      exact .inr ⟨.block ((cut?_eq_none (List.cons_ne_nil _ _)).1 hcut), (Option.some.inj h).symm⟩
  · cases h

theorem comment?_length {s rest : List Char} (h : comment? s = some rest) :
    rest.length < s.length := by
  rcases comment?_eq_some h with ⟨c, hc, rfl⟩ | ⟨hs, rfl⟩
  · cases hc <;> simp <;> omega
  · cases hs <;> simp

theorem skips_skipLeading {fuel : Nat} {s : List Char} (h : s.length ≤ fuel) :
    Skips s (skipLeading fuel s) := by
  have hle : (trimStart s).length ≤ s.length := (List.dropWhile_suffix _).length_le
  induction fuel generalizing s with
  | zero =>
    obtain rfl := List.eq_nil_of_length_eq_zero (Nat.le_zero.1 h)
    exact .ends rfl
  | succ fuel ih =>
    rw [skipLeading]
    split
    · next rest hrest =>
      have hlt := comment?_length hrest
      exact .turn hrest (ih (by omega) (List.dropWhile_suffix _).length_le)
    · next hnone => exact .ends hnone

theorem Skips.unique {s t u : List Char} (ht : Skips s t) (hu : Skips s u) : t = u := by
  induction ht with
  | ends h =>
    cases hu with
    | ends _ => rfl
    | turn h' _ => rw [h] at h'; cases h'
  | turn h _ ih =>
    cases hu with
    | ends h' => rw [h] at h'; cases h'
    | turn h' hrest =>
      obtain rfl := Option.some.inj (h.symm.trans h')
      exact ih hrest

theorem skips_iff {s t : List Char} : Skips s t ↔ skipLeading s.length s = t :=
  ⟨(skips_skipLeading le_rfl).unique, fun h => h ▸ skips_skipLeading le_rfl⟩

/-- Only the trimmed text matters. -/
theorem Skips.of_trimStart_eq {s s' t : List Char} (h : trimStart s = trimStart s')
    (hs : Skips s t) : Skips s' t := by
  cases hs with
  | ends hnone => rw [h] at hnone ⊢; exact .ends hnone
  | turn hrest ht => exact .turn (h ▸ hrest) ht

theorem trimStart_comment {c : List Char} (h : Comment c) (s : List Char) :
    trimStart (c ++ s) = c ++ s := by
  cases h <;> rfl

theorem trimStart_unclosed {s : List Char} (h : Unclosed s) : trimStart s = s := by
  cases h <;> rfl

/-- The loop passes over white space and whole comments. -/
theorem Gap.skips {g s t : List Char} (hg : Gap g) (hs : Skips s t) : Skips (g ++ s) t := by
  induction hg with
  | nil => exact hs
  | blank hc _ ih =>
    refine ih.of_trimStart_eq ?_
    rw [List.cons_append, trimStart, trimStart, List.dropWhile_cons_of_pos hc]
  | @comment c g hc _ ih =>
    rw [List.append_assoc]
    exact .turn ((trimStart_comment hc _).symm ▸ comment?_comment hc _) ih

theorem Unclosed.skips {s : List Char} (h : Unclosed s) : Skips s [] :=
  .turn ((trimStart_unclosed h).symm ▸ comment?_unclosed h) (.ends rfl)

/-- It passes over nothing else, but for an unclosed comment, which leaves nothing. -/
theorem Skips.passed {s t : List Char} (h : Skips s t) :
    (∃ g, Gap g ∧ s = g ++ t) ∨ t = [] := by
  induction h with
  | @ends s h => exact .inl (gap_trimStart s)
  | @turn s rest t h _ ih =>
    rcases ih with ⟨g, hg, rfl⟩ | ht
    · rcases comment?_eq_some h with ⟨c, hc, hs⟩ | ⟨-, hnil⟩
      · obtain ⟨b, hb, htrim⟩ := gap_trimStart s
        refine .inl ⟨b ++ (c ++ g), hb.append (.comment hc hg), ?_⟩
        rw [List.append_assoc, List.append_assoc, ← hs]
        exact htrim
      · exact .inr (List.append_eq_nil_iff.1 hnil).2
    · exact .inr ht

def ink (c : Char) : Bool := !isBlank c && c ≠ '('

theorem firstWord_eq {sql t : List Char} (h : Skips sql t) : firstWord sql = t.takeWhile ink := by
  rw [firstWord, skips_iff.1 h]
  rfl

theorem keywords_alpha : ∀ word ∈ keywords, word ≠ [] ∧ ∀ c ∈ word, c.isAlpha = true := by
  simp [keywords]

/-- A keyword in upper or lower case has letters only. -/
theorem isAlpha_keyword {k : List Char} (hk : k.map Char.toUpper ∈ keywords) :
    k ≠ [] ∧ ∀ c ∈ k, c.isAlpha = true := by
  obtain ⟨hne, halpha⟩ := keywords_alpha _ hk
  exact ⟨fun h => hne (by rw [h, List.map_nil]),
    fun c hc => c.isAlpha_toUpper_eq_isAlpha ▸ halpha _ (List.mem_map_of_mem hc)⟩

/-- The loop ends before a letter. -/
theorem skips_letter {c : Char} (h : c.isAlpha = true) (s : List Char) :
    Skips (c :: s) (c :: s) := by
  have htrim : trimStart (c :: s) = c :: s :=
    List.dropWhile_cons_of_neg (by simp [isBlank_of_isAlpha h])
  have hnone : comment? (c :: s) = none := by
    unfold comment?
    split
    · next heq => injection heq with hc; subst hc; exact absurd h (by decide)
    · next heq => injection heq with hc; subst hc; exact absurd h (by decide)
    · rfl
  have hends := Skips.ends (htrim.symm ▸ hnone)
  rwa [htrim] at hends

theorem takeWhile_ink {k r : List Char} (hk : ∀ c ∈ k, c.isAlpha = true)
    (hr : ∀ c ∈ r.head?, isBlank c = true ∨ c = '(') : (k ++ r).takeWhile ink = k := by
  have hink : ∀ c ∈ k, ink c = true := fun c hc => by
    have hparen : c ≠ '(' := by
      rintro rfl
      exact absurd (hk _ hc) (by decide)
    simp [ink, isBlank_of_isAlpha (hk c hc), hparen]
  rw [List.takeWhile_append_of_pos hink]
  cases r with
  | nil => simp
  | cons c r =>
    rw [List.takeWhile_cons_of_neg, List.append_nil]
    rcases hr c rfl with h | rfl
    · simp [ink, h]
    · decide

/-- What stands behind a word. -/
theorem head_dropWhile_ink (t : List Char) :
    ∀ c ∈ (t.dropWhile ink).head?, isBlank c = true ∨ c = '(' := by
  intro c hc
  have hnot := List.head?_dropWhile_not ink t
  rw [Option.mem_def.1 hc] at hnot
  by_cases hb : isBlank c = true
  · exact .inl hb
  · exact .inr (by simpa [ink, hb] using hnot)

theorem definesSchema_iff {sql : String} :
    definesSchema sql = true ↔ (firstWord sql.toList).map Char.toUpper ∈ keywords := by
  rw [definesSchema, List.contains_iff_mem]

/-- A text and what is left of it at the end of the loop define the schema or not together. -/
theorem definesSchema_congr {sql sql' : String} {t : List Char} (h : Skips sql.toList t)
    (h' : Skips sql'.toList t) : definesSchema sql = definesSchema sql' := by
  rw [definesSchema, definesSchema, firstWord_eq h, firstWord_eq h']

/-- The texts taken for schema definitions are those with one of the three words, in upper or
lower case, between white space and whole comments and the end of the text, white space or a
parenthesis. So whatever white space and whole comments are put in front, the answer stays, and
a comment that is not closed makes it a no. The loop that passes over them comes to one end on
every text. -/
theorem definesSchema_grammar (sql : String) :
    (definesSchema sql = true ↔ ∃ s k r, sql.toList = s ++ k ++ r ∧ Gap s ∧
      k.map Char.toUpper ∈ ["CREATE".toList, "ALTER".toList, "DROP".toList] ∧
      ∀ c ∈ r.head?, isBlank c = true ∨ c = '(') ∧
    (∀ g : String, Gap g.toList → definesSchema (g ++ sql) = definesSchema sql) ∧
    (∀ g u, Gap g → Unclosed u → sql.toList = g ++ u → definesSchema sql = false) ∧
    ∃! t, Skips sql.toList t ∧ firstWord sql.toList = t.takeWhile ink := by
  obtain ⟨t, ht⟩ : ∃ t, Skips sql.toList t := ⟨_, skips_skipLeading le_rfl⟩
  refine ⟨⟨fun h => ?_, ?_⟩, fun g hg => ?_, fun g u hg hu hs => ?_, t, ⟨ht, firstWord_eq ht⟩,
    fun u hu => hu.1.unique ht⟩
  · rw [definesSchema_iff, firstWord_eq ht] at h
    rcases ht.passed with ⟨g, hg, hs⟩ | rfl
    · refine ⟨g, t.takeWhile ink, t.dropWhile ink, ?_, hg, h, head_dropWhile_ink t⟩
      rw [List.append_assoc, List.takeWhile_append_dropWhile, hs]
    · exact absurd rfl (keywords_alpha _ h).1
  · rintro ⟨s, k, r, hs, hgap, hk, hr⟩
    obtain ⟨hne, halpha⟩ := isAlpha_keyword hk
    obtain ⟨c, cs, rfl⟩ := List.exists_cons_of_ne_nil hne
    have hskips : Skips (c :: cs ++ r) (c :: cs ++ r) :=
      skips_letter (halpha c List.mem_cons_self) _
    rw [definesSchema_iff, hs, List.append_assoc, firstWord_eq (hgap.skips hskips),
      takeWhile_ink halpha hr]
    exact hk
  · refine definesSchema_congr (t := t) ?_ ht
    rw [String.toList_append]
    exact hg.skips ht
  · have hskips := hg.skips hu.skips
    rw [← hs] at hskips
    rw [Bool.eq_false_iff, ne_eq, definesSchema_iff, firstWord_eq hskips]
    decide

/-- A block comment that only looks closed at once, a line comment with a keyword in it, and a
comment that is never closed. -/
theorem definesSchema_grammar_commented :
    definesSchema "/*/ x **/-- DROP\n create(" = true ∧ definesSchema " /* DROP *" = false ∧
      definesSchema "Alter" = true ∧ definesSchema "drop\tx" = true := by
  have hblock : Comment "/*/ x **/".toList := @Comment.block "/ x *".toList (by decide)
  have hline : Comment "-- DROP\n".toList := @Comment.line " DROP".toList (by decide)
  have hgap : Gap "/*/ x **/-- DROP\n ".toList := .comment hblock (.comment hline (.blank rfl .nil))
  have hlast : Unclosed "/* DROP *".toList := @Unclosed.block " DROP *".toList (by decide)
  obtain ⟨-, hin, -⟩ := definesSchema_grammar "create("
  obtain ⟨-, -, hunclosed, -⟩ := definesSchema_grammar " /* DROP *"
  refine ⟨?_, hunclosed [' '] _ (.blank rfl .nil) hlast rfl, ?_, ?_⟩
  · exact (hin _ hgap).trans (by decide)
  · exact (definesSchema_grammar "Alter").1.2 ⟨[], "Alter".toList, [], rfl, .nil, by decide, nofun⟩
  · exact (definesSchema_grammar "drop\tx").1.2
      ⟨[], "drop".toList, ['\t', 'x'], rfl, .nil, by decide, by simp [isBlank]⟩

end Tabular.Definition
