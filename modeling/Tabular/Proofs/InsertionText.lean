import Tabular.Proofs.RequestPieces

/-!
# The text of an insertion

Whatever its columns are called, an insertion is cut into the words and marks that it is
made of, with one quoted name for each column. So its table and its columns can be read off
its text.
-/

set_option autoImplicit false

namespace Tabular

namespace Sql

abbrev Shape := String × Lexeme

def Token.shape (t : Token) : Shape := (t.text, t.lexeme)

def Piece.shape (p : Piece) : Shape := p.toToken.shape

namespace Shape

def word (w : String) : Shape := (w, .word)

def mark (s : String) : Shape := (s, .symbol)

def parameter : Shape := ("?", .parameter 0)

def quoted (name : String) : Shape := (Identifier.quote name, .name name false)

def enclosed (items : List Shape) : List Shape :=
  mark "(" :: items.intersperse (mark ",") ++ [mark ")"]

/-- INSERT INTO table (column, ..., column) VALUES (?, ..., ?) -/
def insertion (table : String) (columns : List String) : List Shape :=
  [word "INSERT", word "INTO", word table] ++ enclosed (columns.map quoted) ++
    word "VALUES" :: enclosed (columns.map fun _ => parameter) ++ [("", .finish)]

def name? (s : Shape) : Option String :=
  match s.2 with
  | .name n _ => some n
  | _ => none

theorem filterMap_intersperse {α β : Type} {f : α → Option β} {sep : α} (h : f sep = none)
    (as : List α) : (as.intersperse sep).filterMap f = as.filterMap f := by
  induction as with
  | nil => rfl
  | cons a as ih =>
    cases as with
    | nil => rfl
    | cons b as =>
      rw [List.intersperse_cons_cons]
      cases ha : f a with
      | none => rw [List.filterMap_cons_none ha, List.filterMap_cons_none h, ih,
          List.filterMap_cons_none ha]
      | some c => rw [List.filterMap_cons_some ha, List.filterMap_cons_none h, ih,
          List.filterMap_cons_some ha]

theorem names_enclosed (items : List Shape) :
    (enclosed items).filterMap name? = items.filterMap name? := by
  have hcomma : name? (mark ",") = none := rfl
  rw [enclosed, List.filterMap_append, List.filterMap_cons_none rfl, filterMap_intersperse hcomma]
  exact List.append_nil _

theorem names_insertion (table : String) (columns : List String) :
    (insertion table columns).filterMap name? = columns := by
  have hquoted : (enclosed (columns.map quoted)).filterMap name? = columns := by
    rw [names_enclosed, List.filterMap_map]
    exact List.filterMap_some
  have hparameters : (enclosed (columns.map fun _ => parameter)).filterMap name? = [] := by
    rw [names_enclosed]
    simp [parameter, name?]
  have hvalues : name? (word "VALUES") = none := rfl
  rw [insertion, List.filterMap_append, List.filterMap_append, List.filterMap_append, hquoted,
    List.filterMap_cons_none hvalues, hparameters]
  exact (List.append_nil _).trans (List.append_nil _)

theorem insertion_inj {table table' : String} {columns columns' : List String}
    (h : insertion table columns = insertion table' columns') :
    table = table' ∧ columns = columns' := by
  constructor
  · have hthird : some (word table) = some (word table') := congrArg (fun l => l[2]?) h
    exact congrArg Prod.fst (Option.some.inj hthird)
  · rw [← names_insertion table columns, h, names_insertion]

end Shape

theorem shape_word (gap : List Char) (w : String) : (Piece.token (.word gap w)).shape = .word w :=
  congrArg (·, Lexeme.word) String.ofList_toList

theorem shapes_separated {α : Type} {items : α → List Char → List Piece} {g : α → Shape}
    (h : ∀ a gap, (items a gap).map Piece.shape = [g a]) (as : List α) (gap : List Char) :
    (separated (as.map items) gap).map Piece.shape = (as.map g).intersperse (.mark ",") := by
  induction as generalizing gap with
  | nil => rfl
  | cons a as ih =>
    cases as with
    | nil => simpa [separated] using h a gap
    | cons b as =>
      have hrest : (separated ((b :: as).map items) space).map Piece.shape =
          ((b :: as).map g).intersperse (.mark ",") := ih space
      have hsplit : separated ((a :: b :: as).map items) gap =
          items a gap ++ .token (.symbol [] ",") :: separated ((b :: as).map items) space := by
        simp [separated]
      rw [hsplit, List.map_append, h, List.map_cons, hrest]
      rfl

theorem shapes_enclosed (f : List Char → List Piece) (gap : List Char) :
    (enclosedPieces f gap).map Piece.shape =
      .mark "(" :: (f []).map Piece.shape ++ [.mark ")"] := by
  rw [enclosedPieces, List.map_append]
  rfl

end Sql

namespace Statement

open Sql

theorem shapes_insertion (table : String) (columns : List String) :
    (insertPieces table columns).map Piece.shape ++ [Token.finish.shape] =
      Shape.insertion table columns := by
  have hquoted : (separated (columns.map quotedPieces) []).map Piece.shape =
      (columns.map Shape.quoted).intersperse (.mark ",") :=
    shapes_separated (fun _ _ => rfl) columns []
  have hvalues : (separated (columns.map valuePieces) []).map Piece.shape =
      (columns.map fun _ => Shape.parameter).intersperse (.mark ",") :=
    shapes_separated (fun _ _ => rfl) columns []
  simp only [insertPieces, List.map_append, List.map_cons, shapes_enclosed, shape_word, hquoted,
    hvalues]
  rfl

variable {table : String} {fields : List Field} {types : ColumnTypes} {s : Statement}

theorem insert_pieces (h : insert table fields types = .ok s) :
    MakesUp s.sql (insertPieces table (fields.map Prod.fst)) := by
  have hs : (Request.insert fields).statement table types = .ok s := h
  obtain ⟨ht, hk⟩ := Request.known_of_statement hs
  obtain ⟨hwritten, hsturdy⟩ := Request.statement_known ht hk
  obtain rfl := Except.ok.inj (hs.symm.trans hwritten)
  exact ⟨String.toList_ofList, hsturdy⟩

theorem insert_shapes (h : insert table fields types = .ok s) :
    (tokensOf s.sql).map Token.shape = Shape.insertion table (fields.map Prod.fst) := by
  obtain ⟨htext, hsturdy⟩ := insert_pieces h
  have hplain : ∀ p ∈ insertPieces table (fields.map Prod.fst), p.Plain :=
    (Request.plain_pieces table (.insert fields)).2 trivial
  rw [tokensOf_pieces htext hsturdy hplain, List.map_append, List.map_map]
  exact shapes_insertion table (fields.map Prod.fst)

/-- The text of an insertion is cut into its words, its marks, a quoted name that denotes it for
each column, and a parameter for each column, whatever the names of the columns are. So two
insertions have the same text just if they have the same table and the same columns. -/
theorem insert_cut (ht : Identifier.isPlain table) (hn : fields ≠ [])
    (hk : ∀ f ∈ fields, types.contains f.1) :
    ∃ s, insert table fields types = .ok s ∧
      (tokensOf s.sql).map Token.shape = Shape.insertion table (fields.map Prod.fst) ∧
      ∀ other others types' s', insert other others types' = .ok s' →
        (s'.sql = s.sql ↔ other = table ∧ others.map Prod.fst = fields.map Prod.fst) := by
  have hknown : (Request.insert fields).Known types := ⟨hn, hk⟩
  obtain ⟨hs, -⟩ := Request.statement_known ht hknown
  refine ⟨_, hs, insert_shapes hs, fun other others types' s' hs' => ⟨fun h => ?_, ?_⟩⟩
  · have hshapes := insert_shapes hs'
    rw [h, insert_shapes hs] at hshapes
    exact (Shape.insertion_inj hshapes).imp Eq.symm Eq.symm
  · rintro ⟨rfl, hcolumns⟩
    have htext : s'.sql.toList = pieceText (insertPieces other (others.map Prod.fst)) :=
      (insert_pieces hs').text
    rw [hcolumns, ← (insert_pieces hs).text] at htext
    exact String.toList_inj.1 htext

def hostileFields : List Field :=
  [("`a``", "1"), ("b`) VALUES (1); DROP TABLE t --", "2"), ("", "3")]

theorem insert_cut_hostile :
    let types : ColumnTypes := ⟨hostileFields.map fun f => (f.1, .string)⟩
    Identifier.isPlain "t" ∧ hostileFields ≠ [] ∧ (∀ f ∈ hostileFields, types.contains f.1) ∧
      ∃ s, insert "t" hostileFields types = .ok s ∧
        s.sql =
          "INSERT INTO t (```a`````, `b``) VALUES (1); DROP TABLE t --`, ``) VALUES (?, ?, ?)" ∧
        (tokensOf s.sql).map Token.shape = Shape.insertion "t" (hostileFields.map Prod.fst) := by
  intro types
  have ht : Identifier.isPlain "t" := by decide
  have hn : hostileFields ≠ [] := by decide
  have hk : ∀ f ∈ hostileFields, types.contains f.1 := by decide
  obtain ⟨s, hs, hshapes, -⟩ := insert_cut ht hn hk
  refine ⟨ht, hn, hk, s, hs, ?_, hshapes⟩
  obtain rfl := Except.ok.inj (hs.symm.trans rfl)
  rfl

end Statement

end Tabular
