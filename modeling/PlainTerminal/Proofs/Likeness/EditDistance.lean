import Mathlib.Order.Bounds.Defs
import PlainTerminal.Likeness.EditDistance

/-!
# The edit distance is the least number of edits

An `Edit` inserts, deletes or replaces one character anywhere in a text, and `Edits n` is a sequence
of `n` of them. The recursion `editDistance` counts the edits of a shortest such sequence: one of
that length exists, and no single edit brings a text nearer to another by more than one.

The recursion works from the front of both texts, the rows of `distance` grow at their end. What
joins the two is that edits may be read backwards, so the distance stays the same when both texts
are turned round. The invariant of the rows is then about beginnings: the last row holds the
distances from what has been read of the first text to every beginning of the second one. The other
row holds whatever was written there two characters ago, and nothing is known of it but its size.
-/

namespace PlainTerminal.Likeness

/-- One character of a text is inserted, deleted or replaced. -/
inductive Edit : List Char → List Char → Prop where
  | insert (before after : List Char) (c : Char) : Edit (before ++ after) (before ++ c :: after)
  | delete (before after : List Char) (c : Char) : Edit (before ++ c :: after) (before ++ after)
  | replace (before after : List Char) (c d : Char) :
      Edit (before ++ c :: after) (before ++ d :: after)

/-- So many edits, one after the other, turn a text into another. -/
inductive Edits : Nat → List Char → List Char → Prop where
  | none (a : List Char) : Edits 0 a a
  | more {n : Nat} {a a' b : List Char} : Edit a a' → Edits n a' b → Edits (n + 1) a b

/-! ## The recursion, case by case -/

@[simp] theorem editDistance_nil_left (b : List Char) : editDistance [] b = b.length := by
  simp [editDistance]

@[simp] theorem editDistance_nil_right (a : List Char) : editDistance a [] = a.length := by
  cases a with
  | nil => simp
  | cons x a => simp [editDistance]

theorem editDistance_cons_cons (x y : Char) (a b : List Char) :
    editDistance (x :: a) (y :: b) =
      min (editDistance a b + if x = y then 0 else 1)
        (min (editDistance a (y :: b) + 1) (editDistance (x :: a) b + 1)) := by
  rw [editDistance]

/-- A last step of the recursion is one of three. -/
theorem editDistance_cons_cons_cases (x y : Char) (a b : List Char) :
    editDistance (x :: a) (y :: b) = (editDistance a b + if x = y then 0 else 1) ∨
      editDistance (x :: a) (y :: b) = editDistance a (y :: b) + 1 ∨
      editDistance (x :: a) (y :: b) = editDistance (x :: a) b + 1 := by
  have h := editDistance_cons_cons x y a b
  omega

/-! ## There is a sequence of that length -/

theorem Edit.cons {a a' : List Char} (h : Edit a a') (c : Char) : Edit (c :: a) (c :: a') := by
  cases h with
  | insert before after d => exact .insert (c :: before) after d
  | delete before after d => exact .delete (c :: before) after d
  | replace before after d e => exact .replace (c :: before) after d e

theorem Edits.cons {n : Nat} {a b : List Char} (h : Edits n a b) (c : Char) :
    Edits n (c :: a) (c :: b) := by
  induction h with
  | none a => exact .none (c :: a)
  | more hedit _ ih => exact .more (hedit.cons c) ih

/-- **As many edits as the recursion says turn one text into the other.** -/
theorem edits_editDistance (a b : List Char) : Edits (editDistance a b) a b := by
  induction a generalizing b with
  | nil =>
      rw [editDistance_nil_left]
      induction b with
      | nil => exact .none []
      | cons y b ih => exact .more (.insert [] [] y) (ih.cons y)
  | cons x a iha =>
      induction b with
      | nil =>
          have h := iha []
          rw [editDistance_nil_right] at h ⊢
          exact .more (.delete [] a x) h
      | cons y b ihb =>
          rcases editDistance_cons_cons_cases x y a b with h | h | h
          · rw [h]
            by_cases hxy : x = y
            · subst hxy
              rw [if_pos rfl]
              exact (iha b).cons x
            · rw [if_neg hxy]
              exact .more (.replace [] a x y) ((iha b).cons y)
          · rw [h]
            exact .more (.delete [] a x) (iha (y :: b))
          · rw [h]
            exact .more (.insert [] (x :: a) y) (ihb.cons y)

/-! ## There is no shorter one -/

theorem editDistance_cons_left_le (x : Char) (a b : List Char) :
    editDistance (x :: a) b ≤ editDistance a b + 1 := by
  cases b with
  | nil => simp
  | cons y b =>
      have h := editDistance_cons_cons x y a b
      omega

theorem editDistance_cons_right_le (y : Char) (a b : List Char) :
    editDistance a (y :: b) ≤ editDistance a b + 1 := by
  cases a with
  | nil => simp
  | cons x a =>
      have h := editDistance_cons_cons x y a b
      omega

theorem editDistance_le_cons_left (x : Char) (a b : List Char) :
    editDistance a b ≤ editDistance (x :: a) b + 1 := by
  induction b with
  | nil =>
      simp only [editDistance_nil_right, List.length_cons]
      omega
  | cons y b ih =>
      have hright := editDistance_cons_right_le y a b
      rcases editDistance_cons_cons_cases x y a b with h | h | h
      · omega
      · omega
      · omega

/-- A replaced first character changes the distance by one at most. -/
theorem editDistance_cons_le_cons (x z : Char) (a b : List Char) :
    editDistance (x :: a) b ≤ editDistance (z :: a) b + 1 := by
  induction b with
  | nil => simp
  | cons y b ih =>
      have hx := editDistance_cons_cons x y a b
      have hcost : (if x = y then 0 else 1) ≤ 1 := by split <;> omega
      rcases editDistance_cons_cons_cases z y a b with h | h | h
      · omega
      · omega
      · omega

/-- What an edit does to the distance it does behind a first character too. -/
theorem editDistance_cons_le_of_le {a a' : List Char}
    (h : ∀ b, editDistance a b ≤ editDistance a' b + 1) (c : Char) (b : List Char) :
    editDistance (c :: a) b ≤ editDistance (c :: a') b + 1 := by
  induction b with
  | nil =>
      have hnil := h []
      simp only [editDistance_nil_right, List.length_cons] at hnil ⊢
      omega
  | cons y b ih =>
      have hb := h b
      have hyb := h (y :: b)
      have hc := editDistance_cons_cons c y a b
      rcases editDistance_cons_cons_cases c y a' b with h' | h' | h'
      · omega
      · omega
      · omega

/-- An edit brings a text nearer to another by one at most. -/
theorem Edit.editDistance_le {a a' : List Char} (h : Edit a a') (b : List Char) :
    editDistance a b ≤ editDistance a' b + 1 := by
  cases h with
  | insert before after c =>
      induction before generalizing b with
      | nil => exact editDistance_le_cons_left c after b
      | cons d before ih => exact editDistance_cons_le_of_le ih d b
  | delete before after c =>
      induction before generalizing b with
      | nil => exact editDistance_cons_left_le c after b
      | cons d before ih => exact editDistance_cons_le_of_le ih d b
  | replace before after c c' =>
      induction before generalizing b with
      | nil => exact editDistance_cons_le_cons c c' after b
      | cons d before ih => exact editDistance_cons_le_of_le ih d b

theorem editDistance_self (a : List Char) : editDistance a a = 0 := by
  induction a with
  | nil => simp
  | cons x a ih =>
      have h := editDistance_cons_cons x x a a
      rw [if_pos rfl, ih] at h
      omega

/-- **Fewer edits than the recursion says do not do.** -/
theorem Edits.editDistance_le {n : Nat} {a b : List Char} (h : Edits n a b) :
    editDistance a b ≤ n := by
  induction h with
  | none a => exact Nat.le_of_eq (editDistance_self a)
  | @more n a a' b hedit _ ih =>
      have hstep := hedit.editDistance_le b
      omega

/-! ## Backwards -/

theorem Edit.reverse {a a' : List Char} (h : Edit a a') : Edit a.reverse a'.reverse := by
  cases h with
  | insert before after c => simpa using Edit.insert after.reverse before.reverse c
  | delete before after c => simpa using Edit.delete after.reverse before.reverse c
  | replace before after c d => simpa using Edit.replace after.reverse before.reverse c d

theorem Edits.reverse {n : Nat} {a b : List Char} (h : Edits n a b) :
    Edits n a.reverse b.reverse := by
  induction h with
  | none a => exact .none a.reverse
  | more hedit _ ih => exact .more hedit.reverse ih

/-- The distance is the same when both texts are turned round. -/
theorem editDistance_reverse (a b : List Char) :
    editDistance a.reverse b.reverse = editDistance a b := by
  have hle : editDistance a.reverse b.reverse ≤ editDistance a b :=
    (edits_editDistance a b).reverse.editDistance_le
  have hge := (edits_editDistance a.reverse b.reverse).reverse.editDistance_le
  rw [List.reverse_reverse, List.reverse_reverse] at hge
  omega

/-- The recursion from the other end. -/
theorem editDistance_concat (a b : List Char) (x y : Char) :
    editDistance (a ++ [x]) (b ++ [y]) =
      min (editDistance a b + if x = y then 0 else 1)
        (min (editDistance a (b ++ [y]) + 1) (editDistance (a ++ [x]) b + 1)) := by
  have h := editDistance_cons_cons x y a.reverse b.reverse
  have hx : x :: a.reverse = (a ++ [x]).reverse := by simp
  have hy : y :: b.reverse = (b ++ [y]).reverse := by simp
  rw [hx, hy] at h
  simpa only [editDistance_reverse] using h

/-! ## The rows -/

/-- The row holds the distances from `a` to every beginning of `b`. -/
structure IsRow (a b : List Char) (row : Array Nat) : Prop where
  size : row.size = b.length + 1
  entry : ∀ j ≤ b.length, row.getD j 0 = editDistance a (b.take j)

theorem getD_setIfInBounds_self {row : Array Nat} {j : Nat} (h : j < row.size) (n : Nat) :
    (row.setIfInBounds j n).getD j 0 = n := by
  rw [Array.getD_eq_getD_getElem?, Array.getElem?_setIfInBounds, if_pos rfl, if_pos h]
  rfl

theorem getD_setIfInBounds_of_ne {row : Array Nat} {i j : Nat} (h : i ≠ j) (n : Nat) :
    (row.setIfInBounds i n).getD j 0 = row.getD j 0 := by
  rw [Array.getD_eq_getD_getElem?, Array.getD_eq_getD_getElem?,
    Array.getElem?_setIfInBounds_ne h]

/-- **The next row is right whatever it is written over.** The invariant of the writing is that the
places up to the last one written hold what they are to hold. -/
theorem isRow_overwrite {a left : List Char} {x : Char} {above row : Array Nat}
    (done : List Char) (habove : IsRow a (done ++ left) above)
    (hsize : row.size = (done ++ left).length + 1)
    (hdone : ∀ j ≤ done.length,
      row.getD j 0 = editDistance (a ++ [x]) ((done ++ left).take j)) :
    IsRow (a ++ [x]) (done ++ left) (overwrite x above left done.length row) := by
  induction left generalizing done row with
  | nil =>
      rw [overwrite]
      refine ⟨hsize, ?_⟩
      intro j hj
      rw [List.append_nil] at hj
      exact hdone j hj
  | cons y left ih =>
      have hwhole : done ++ y :: left = (done ++ [y]) ++ left := by simp
      have hlength : (done ++ [y]).length = done.length + 1 := by simp
      have htake : (done ++ y :: left).take (done.length + 1) = done ++ [y] := by
        rw [hwhole, ← hlength, List.take_left]
      have hroom : done.length + 1 < row.size := by
        rw [hsize, List.length_append, List.length_cons]
        omega
      -- the three numbers that the new one is made of
      have hdiagonal := habove.entry done.length (by simp)
      have habove' := habove.entry (done.length + 1) (by simp)
      have hleft := hdone done.length (Nat.le_refl _)
      rw [List.take_left] at hdiagonal hleft
      rw [htake] at habove'
      rw [overwrite, hdiagonal, habove', hleft]
      rw [hwhole] at habove hsize hdone ⊢
      rw [← hlength]
      refine ih (done ++ [y]) habove ?_ ?_
      · rw [Array.size_setIfInBounds]
        exact hsize
      · intro j hj
        by_cases hlast : done.length + 1 = j
        · -- the place just written
          subst hlast
          rw [hlength, getD_setIfInBounds_self hroom, ← hlength, List.take_left,
            editDistance_concat]
          omega
        · rw [hlength, getD_setIfInBounds_of_ne hlast]
          exact hdone j (by omega)

/-- The rows after `a` has been read: the last one is right, the next one has the right size. -/
structure Rows.Hold (a b : List Char) (rows : Rows) : Prop where
  last : IsRow a b rows.last
  next : rows.next.size = b.length + 1

theorem Rows.hold_start (b : List Char) : Rows.Hold [] b (.start b.length) := by
  refine ⟨⟨?_, ?_⟩, ?_⟩
  · simp [Rows.start]
  · intro j hj
    have hrange : (Array.range (b.length + 1))[j]? = some j := by
      rw [Array.getElem?_range, if_pos (by omega)]
    rw [Rows.start, Array.getD_eq_getD_getElem?, hrange, editDistance_nil_left, List.length_take]
    exact (Nat.min_eq_left hj).symm
  · simp [Rows.start]

/-- One more character keeps the rows right. -/
theorem Rows.Hold.advance {a b : List Char} {rows : Rows} (h : Rows.Hold a b rows) (x : Char) :
    Rows.Hold (a ++ [x]) b (rows.advance b (x, a.length)) := by
  refine ⟨?_, h.last.size⟩
  have hsize : (rows.next.setIfInBounds 0 (a.length + 1)).size = b.length + 1 := by
    rw [Array.size_setIfInBounds]
    exact h.next
  refine isRow_overwrite [] h.last hsize ?_
  intro j hj
  obtain rfl : j = 0 := Nat.le_zero.mp hj
  have hroom : 0 < rows.next.size := by
    have hnext := h.next
    omega
  rw [getD_setIfInBounds_self hroom, List.take_zero, editDistance_nil_right, List.length_append]
  rfl

/-- The rows are right after every run through the first text. -/
theorem Rows.Hold.foldl {a b : List Char} {rows : Rows} (h : Rows.Hold a b rows)
    (left : List Char) :
    Rows.Hold (a ++ left) b ((left.zipIdx a.length).foldl (Rows.advance b) rows) := by
  induction left generalizing a rows with
  | nil =>
      rw [List.append_nil]
      exact h
  | cons x left ih =>
      have hrest := ih (h.advance x)
      rw [List.append_assoc, List.length_append] at hrest
      rw [List.zipIdx_cons, List.foldl_cons]
      exact hrest

theorem distance_eq_editDistance (a b : String) :
    distance a b = editDistance a.toList b.toList := by
  have hrows := (Rows.hold_start b.toList).foldl a.toList
  have hentry := hrows.last.entry b.toList.length (Nat.le_refl _)
  rw [List.take_length, List.nil_append] at hentry
  exact hentry

/-- **The distance is the least number of edits**: so many turn the first text into the second, and
fewer do not. It is also what the recursion on the two texts says. -/
theorem isLeast_distance (a b : String) :
    IsLeast {n | Edits n a.toList b.toList} (distance a b) ∧
      distance a b = editDistance a.toList b.toList := by
  have heq := distance_eq_editDistance a b
  refine ⟨⟨?_, ?_⟩, heq⟩
  · show Edits (distance a b) a.toList b.toList
    rw [heq]
    exact edits_editDistance a.toList b.toList
  · intro n hn
    rw [heq]
    exact Edits.editDistance_le hn

example : distance "gumbo" "gambol" = 2 := by decide

end PlainTerminal.Likeness
