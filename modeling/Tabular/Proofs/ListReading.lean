import Tabular.Proofs.Reading

/-!
# Reading lists back

A list with commas between its items is read item by item, if each item is read up to
what may stand behind it. The parameters in the items have consecutive numbers.
-/

set_option autoImplicit false

namespace Tabular.Sql

def numbered (n : Nat) (ps : List Piece) : List Token := numberFrom n (ps.map Piece.toToken)

theorem numbered_append (n : Nat) (ps qs : List Piece) :
    numbered n (ps ++ qs) =
      numbered n ps ++ numbered (n + parameterCount (ps.map Piece.toToken)) qs := by
  rw [numbered, List.map_append, numberFrom_append]
  rfl

namespace Reader

variable {α β : Type}

theorem map_ok {r : Reader α} {f : α → β} {ts rest : List Token} {a : α}
    (h : r ts = .ok (a, rest)) : (f <$> r) ts = .ok (f a, rest) := by
  change (r >>= fun a => pure (f a)) ts = _
  rw [bind_ok h]
  rfl

theorem after_hit {key : String} {r : Reader α} {t : Token} {ts rest : List Token} {a : α}
    (hk : t.is key) (h : r ts = .ok (a, rest)) : after key r (t :: ts) = .ok (some a, rest) := by
  have ht : take key (t :: ts) = .ok (true, ts) := take_hit (s := t :: ts) hk
  unfold after
  rw [bind_ok ht, if_pos rfl, bind_ok h]
  rfl

theorem after_miss {key : String} {r : Reader α} {t : Token} {ts : List Token}
    (hk : t.is key = false) : after key r (t :: ts) = .ok (none, t :: ts) := by
  unfold after
  rw [bind_ok (take_miss (s := t :: ts) hk), if_neg Bool.false_ne_true]
  rfl

def comma : Token := .symbol [] ","

def listed : List (List Token × β) → List Token
  | [] => []
  | x :: xs => x.1 ++ xs.flatMap fun y => comma :: y.1

theorem commaList_last {r : Reader β} {ts rest : List Token} {b : β} {fuel : Nat}
    (h : r ts = .ok (b, rest)) (hr : (first rest).is "," = false) :
    commaList r (fuel + 1) ts = .ok ([b], rest) := by
  rw [commaList, bind_ok h, bind_ok (take_miss hr)]
  rfl

theorem commaList_more {r : Reader β} {ts us rest : List Token} {b : β} {bs : List β} {fuel : Nat}
    (h : r ts = .ok (b, comma :: us)) (hs : commaList r fuel us = .ok (bs, rest)) :
    commaList r (fuel + 1) ts = .ok (b :: bs, rest) := by
  have ht : take "," (comma :: us) = .ok (true, us) := rfl
  rw [commaList, bind_ok h, bind_ok ht, if_pos rfl, bind_ok hs]
  rfl

section

variable {r : Reader β} {ends : Token → Bool} {t : Token} {rest : List Token}

theorem commaList_listed (hc : ends comma) (ht : ends t) (hm : t.is "," = false)
    {x : List Token × β} {xs : List (List Token × β)} {fuel : Nat} (hf : xs.length < fuel)
    (h : ∀ y ∈ x :: xs, ∀ u us, ends u → r (y.1 ++ u :: us) = .ok (y.2, u :: us)) :
    commaList r fuel (listed (x :: xs) ++ t :: rest) =
      .ok ((x :: xs).map Prod.snd, t :: rest) := by
  induction xs generalizing x fuel with
  | nil =>
    obtain ⟨n, rfl⟩ : ∃ n, fuel = n + 1 := ⟨fuel - 1, by omega⟩
    have hx : listed [x] ++ t :: rest = x.1 ++ t :: rest := by simp [listed]
    rw [hx, commaList_last (h x (by simp) t rest ht) hm]
    rfl
  | cons y ys ih =>
    obtain ⟨n, rfl⟩ : ∃ n, fuel = n + 1 := ⟨fuel - 1, by omega⟩
    obtain ⟨hx, hys⟩ := List.forall_mem_cons.1 h
    have hsplit : listed (x :: y :: ys) ++ t :: rest =
        x.1 ++ comma :: (listed (y :: ys) ++ t :: rest) := by simp [listed]
    have hrest := @ih y n (by simpa using hf) hys
    rw [hsplit, commaList_more (hx comma _ hc) hrest]
    rfl

theorem length_listed (xs : List (List Token × β)) : xs.length ≤ (listed xs).length + 1 := by
  cases xs with
  | nil => exact Nat.zero_le _
  | cons x xs =>
    have htail : xs.length ≤ (xs.flatMap fun y => comma :: y.1).length := by
      induction xs with
      | nil => exact Nat.le_refl _
      | cons y ys ih =>
        simp only [List.flatMap_cons, List.length_append, List.length_cons]
        omega
    simp only [listed, List.length_append, List.length_cons]
    omega

/-- A list is read item by item up to what ends it. -/
theorem items_listed (hc : ends comma) (ht : ends t) (hm : t.is "," = false)
    {xs : List (List Token × β)} (hn : xs ≠ [])
    (h : ∀ x ∈ xs, ∀ u us, ends u → r (x.1 ++ u :: us) = .ok (x.2, u :: us)) :
    items r (listed xs ++ t :: rest) = .ok (xs.map Prod.snd, t :: rest) := by
  cases xs with
  | nil => exact absurd rfl hn
  | cons x xs =>
    have hl := length_listed (x :: xs)
    refine commaList_listed hc ht hm ?_ h
    simp only [List.length_append, List.length_cons] at hl ⊢
    omega

end

def numberedItems (items : α → List Char → List Piece) (value : Nat → α → β) (n : Nat)
    (gap : List Char) : List α → List (List Token × β)
  | [] => []
  | a :: as =>
    (numbered n (items a gap), value n a) ::
      numberedItems items value (n + parameterCount ((items a gap).map Piece.toToken)) space as

section

variable {items : α → List Char → List Piece} {value : Nat → α → β}

theorem numbered_separated (value : Nat → α → β) (n : Nat) (gap : List Char) (as : List α) :
    numbered n (separated (as.map items) gap) = listed (numberedItems items value n gap as) := by
  have htail (as : List α) (n : Nat) :
      numbered n ((as.map items).flatMap fun i => .token (.symbol [] ",") :: i space) =
        (numberedItems items value n space as).flatMap fun y => comma :: y.1 := by
    induction as generalizing n with
    | nil => rfl
    | cons a as ih =>
      rw [List.map_cons, List.flatMap_cons, numbered_append]
      exact congrArg (_ :: _ ++ ·) (ih _)
  cases as with
  | nil => rfl
  | cons a as =>
    rw [List.map_cons, separated, numbered_append, htail]
    rfl

theorem mem_numberedItems {n : Nat} {gap : List Char} {as : List α} {x : List Token × β}
    (h : x ∈ numberedItems items value n gap as) :
    ∃ a ∈ as, ∃ m gap, x = (numbered m (items a gap), value m a) := by
  induction as generalizing n gap with
  | nil => cases h
  | cons a as ih =>
    rcases List.mem_cons.1 h with rfl | h
    · exact ⟨a, by simp, n, gap, rfl⟩
    · obtain ⟨b, hb, hx⟩ := ih h
      exact ⟨b, by simp [hb], hx⟩

/-- Values of items without parameters. -/
theorem numberedItems_none (items : α → List Char → List Piece)
    (h : ∀ a gap, parameterCount ((items a gap).map Piece.toToken) = 0) (n : Nat) (gap : List Char)
    (as : List α) :
    (numberedItems items value n gap as).map Prod.snd = as.map (value n) := by
  induction as generalizing gap with
  | nil => rfl
  | cons a as ih =>
    rw [numberedItems, h, List.map_cons, Nat.add_zero, ih]
    rfl

/-- Values of items with one parameter each. -/
theorem numberedItems_one (items : α → List Char → List Piece)
    (h : ∀ a gap, parameterCount ((items a gap).map Piece.toToken) = 1) (n : Nat) (gap : List Char)
    (as : List α) :
    (numberedItems items value n gap as).map Prod.snd =
      (as.zipIdx n).map fun x => value x.2 x.1 := by
  induction as generalizing n gap with
  | nil => rfl
  | cons a as ih =>
    rw [numberedItems, h, List.map_cons, ih, List.zipIdx_cons, List.map_cons]

/-- The items between commas are read one by one, each from its own number on. -/
theorem items_separated (r : Reader β) (ends : Token → Bool) (items : α → List Char → List Piece)
    (value : Nat → α → β) (hc : ends comma) {as : List α} (hn : as ≠ [])
    (h : ∀ a ∈ as, ∀ n gap t rest, ends t →
      r (numbered n (items a gap) ++ t :: rest) = .ok (value n a, t :: rest))
    {t : Token} (ht : ends t) (hm : t.is "," = false) (n : Nat) (gap : List Char)
    (rest : List Token) :
    Reader.items r (numbered n (separated (as.map items) gap) ++ t :: rest) =
      .ok ((numberedItems items value n gap as).map Prod.snd, t :: rest) := by
  rw [numbered_separated value]
  refine items_listed hc ht hm ?_ fun x hx u us hu => ?_
  · cases as with
    | nil => exact absurd rfl hn
    | cons a as => exact List.cons_ne_nil _ _
  · obtain ⟨a, ha, m, gap, rfl⟩ := mem_numberedItems hx
    exact h a ha m gap u us hu

end

end Reader
end Tabular.Sql
