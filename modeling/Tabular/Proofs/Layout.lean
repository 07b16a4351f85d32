import Tabular.Proofs.Pieces

/-!
# Laying out texts

A text is laid out from left to right: something with a gap in front of it, and then
pieces that can stand behind a word. What is put together in this way has the text of
its parts and keeps its pieces apart.
-/

set_option autoImplicit false

namespace Tabular.Sql

open Lexer

namespace Token

def word (gap : List Char) (w : String) : Token := ⟨gap, w.toList, .word⟩

def symbol (gap : List Char) (s : String) : Token := ⟨gap, s.toList, .symbol⟩

def placeholder (gap : List Char) : Token := ⟨gap, ['?'], .parameter 0⟩

def quoted (gap : List Char) (name : String) : Token :=
  ⟨gap, Identifier.quotedChars name.toList, .name name false⟩

end Token

def space : List Char := [' ']

structure Laid (f : List Char → List Piece) (text : List Char) : Prop where
  text : ∀ gap, pieceText (f gap) = gap ++ text
  sturdy : ∀ gap, gap = [] ∨ gap = space → ∀ rest, Ends rest → Sturdy rest (f gap)

def Follows (ps : List Piece) : Prop :=
  ∀ rest, Ends rest → Ends (pieceText ps ++ rest) ∧ Sturdy rest ps

theorem follows_nil : Follows [] := fun _ h => ⟨h, trivial⟩

variable {f : List Char → List Piece} {t : List Char} {ps qs : List Piece}

theorem Follows.append (hp : Follows ps) (hq : Follows qs) : Follows (ps ++ qs) := by
  intro rest hr
  obtain ⟨he, hs⟩ := hq rest hr
  rw [pieceText_append, List.append_assoc, sturdy_append]
  exact ⟨(hp _ he).1, (hp _ he).2, hs⟩

theorem follows_flatMap {α : Type} (as : List α) {g : α → List Piece}
    (h : ∀ a ∈ as, Follows (g a)) : Follows (as.flatMap g) := by
  induction as with
  | nil => exact follows_nil
  | cons a as ih =>
    obtain ⟨ha, has⟩ := List.forall_mem_cons.1 h
    exact ha.append (ih has)

theorem Laid.append (hf : Laid f t) (hq : Follows qs) :
    Laid (fun gap => f gap ++ qs) (t ++ pieceText qs) where
  text gap := by rw [pieceText_append, hf.text, List.append_assoc]
  sturdy gap hg rest hr := by
    obtain ⟨he, hs⟩ := hq rest hr
    rw [sturdy_append]
    exact ⟨hf.sturdy gap hg _ he, hs⟩

theorem ends_nil : Ends [] := by simp [Ends]

theorem ends_space (rest : List Char) : Ends (space ++ rest) := by
  simp [Ends, space]
  decide

theorem Laid.follows (h : Laid f t) : Follows (f space) := by
  intro rest hr
  rw [h.text, List.append_assoc]
  exact ⟨ends_space _, h.sturdy space (.inr rfl) rest hr⟩

theorem before_of_opens {gap : List Char} {c : Char} {cs rest : List Char} {lexeme : Lexeme}
    (hc : opens c) (hl : lexeme ≠ .finish ∧ lexeme ≠ .illegal) (hg : gap = [] ∨ gap = space)
    (ht : token (c :: cs ++ rest) = (c :: cs, lexeme)) :
    (⟨gap, c :: cs, lexeme⟩ : Token).Before rest := by
  refine ⟨?_, ht, by simp, hl⟩
  rcases hg with rfl | rfl
  · exact leading_opens hc _ [] _
  · exact leading_space hc _ _

theorem laid_token {make : List Char → Token} {c : Char} {cs : List Char} {lexeme : Lexeme}
    (hm : ∀ gap, make gap = ⟨gap, c :: cs, lexeme⟩) (hc : opens c)
    (hl : lexeme ≠ .finish ∧ lexeme ≠ .illegal)
    (ht : ∀ rest, Ends rest → token (c :: cs ++ rest) = (c :: cs, lexeme)) :
    Laid (fun gap => [.token (make gap)]) (c :: cs) where
  text gap := by
    rw [hm]
    simp [pieceText, Piece.text, Token.written]
  sturdy gap hg rest hr := by
    rw [hm]
    exact ⟨before_of_opens hc hl hg (ht rest hr), trivial⟩

theorem laid_word {w : String} (h : isWord w.toList) :
    Laid (fun gap => [.token (.word gap w)]) w.toList where
  text gap := by simp [pieceText, Piece.text, Token.written, Token.word]
  sturdy _ hg _ hr := ⟨word_before h hg (by simpa [pieceText] using hr), trivial⟩

theorem laid_column (excluded : List String) (name : String) :
    Laid (fun gap => [.column excluded gap name]) name.toList where
  text gap := by simp [pieceText, Piece.text]
  sturdy _ hg _ hr := ⟨⟨hg, by simpa [pieceText] using hr⟩, trivial⟩

theorem laid_placeholder : Laid (fun gap => [.token (.placeholder gap)]) ['?'] :=
  laid_token (fun _ => rfl) (by decide) (by decide) fun _ h => token_parameter h

theorem laid_quoted (name : String) :
    Laid (fun gap => [.token (.quoted gap name)]) (Identifier.quotedChars name.toList) := by
  refine laid_token (fun _ => rfl) (by decide) (by simp) fun rest hr => ?_
  have hne : rest.head? ≠ some '\x60' := fun h => (hr _ h).2 (by simp)
  have ht := token_quoted name.toList rest hne
  rw [String.ofList_toList] at ht
  exact ht

theorem laid_star : Laid (fun gap => [.token (.symbol gap "*")]) ['*'] :=
  laid_token (fun _ => rfl) (by decide) (by decide) fun _ _ => rfl

def IsMark (s : String) : Prop :=
  ∀ rest, (Token.symbol [] s).Before rest ∧ Ends (s.toList ++ rest)

theorem follows_mark {s : String} (h : IsMark s) : Follows [.token (.symbol [] s)] := by
  intro rest _
  have ht : pieceText [.token (.symbol [] s)] = s.toList := by
    simp [pieceText, Piece.text, Token.written, Token.symbol]
  rw [ht]
  exact ⟨(h rest).2, (h _).1, trivial⟩

theorem mark_close : IsMark ")" := by
  refine fun rest => ⟨⟨leading_opens (by decide) _ [] _, rfl, by decide, by decide, by decide⟩, ?_⟩
  simp [Ends]
  decide

theorem mark_comma : IsMark "," := by
  refine fun rest => ⟨⟨leading_opens (by decide) _ [] _, rfl, by decide, by decide, by decide⟩, ?_⟩
  simp [Ends]
  decide

def enclosedPieces (f : List Char → List Piece) (gap : List Char) : List Piece :=
  .token (.symbol gap "(") :: f [] ++ [.token (.symbol [] ")")]

theorem laid_enclosed (h : Laid f t) : Laid (enclosedPieces f) ('(' :: t ++ [')']) where
  text gap := by
    simp only [enclosedPieces, pieceText_append, pieceText_cons, h.text]
    simp [pieceText, Piece.text, Token.written, Token.symbol]
  sturdy gap hg rest hr := by
    obtain ⟨he, hs⟩ := follows_mark mark_close rest hr
    rw [enclosedPieces, sturdy_append]
    exact ⟨⟨before_of_opens (by decide) (by decide) hg rfl, h.sturdy [] (.inl rfl) _ he⟩, hs⟩

def separated (items : List (List Char → List Piece)) (gap : List Char) : List Piece :=
  match items with
  | [] => []
  | item :: rest => item gap ++ rest.flatMap fun i => .token (.symbol [] ",") :: i space

theorem Laid.comma (h : Laid f t) : Follows (.token (.symbol [] ",") :: f space) :=
  (follows_mark mark_comma).append h.follows

/-- The text of items is theirs with commas and spaces between them. -/
theorem laid_separated {α : Type} {items : α → List Char → List Piece} {texts : α → String}
    {a : α} {as : List α} (h : ∀ x ∈ a :: as, Laid (items x) (texts x).toList) :
    Laid (separated ((a :: as).map items)) (", ".intercalate ((a :: as).map texts)).toList := by
  obtain ⟨ha, has⟩ := List.forall_mem_cons.1 h
  have hlaid := ha.append (follows_flatMap (as.map items)
    (g := fun i => .token (.symbol [] ",") :: i space) (by
      intro i hi
      obtain ⟨x, hx, rfl⟩ := List.mem_map.1 hi
      exact (has x hx).comma))
  have htext : (texts a).toList ++
      pieceText ((as.map items).flatMap fun i => .token (.symbol [] ",") :: i space) =
        (", ".intercalate ((a :: as).map texts)).toList := by
    clear hlaid ha h
    induction as generalizing a with
    | nil => simp [pieceText]
    | cons b bs ih =>
      obtain ⟨hb, hbs⟩ := List.forall_mem_cons.1 has
      have hrest := ih (a := b) hbs
      simp only [List.map_cons, List.flatMap_cons, pieceText_append, pieceText_cons, hb.text,
        String.intercalate_cons_cons, String.toList_append] at hrest ⊢
      rw [← hrest]
      simp [Piece.text, Token.written, Token.symbol, space]
  rw [htext] at hlaid
  exact hlaid

end Tabular.Sql
