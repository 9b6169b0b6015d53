/-!
Contract: total widths of lists, whose items each take up a number of places.
-/

namespace TypedBytecode

def totalWidth {α : Type} (width : α → Nat) (items : List α) : Nat :=
  items.foldr (fun item total => width item + total) 0

namespace totalWidth

variable {α : Type} (width : α → Nat)

@[simp] theorem of_nil : totalWidth width [] = 0 := rfl

@[simp] theorem of_cons (item : α) (items : List α) :
    totalWidth width (item :: items) = width item + totalWidth width items := rfl

@[simp] theorem of_append (front back : List α) :
    totalWidth width (front ++ back) = totalWidth width front + totalWidth width back := by
  induction front with
  | nil => simp
  | cons item items inductionHypothesis => simp [inductionHypothesis, Nat.add_assoc]

end totalWidth

end TypedBytecode
