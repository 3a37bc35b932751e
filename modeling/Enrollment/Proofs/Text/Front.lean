/-!
# The front of a text

A reader that takes characters of a class as long as they come takes exactly those that were
written, if what follows them does not go on with the class.
-/

namespace Enrollment.Text

variable {p : Char → Bool} {front rest : List Char} {c : Char}

/-- The text does not go on with a character of the class. -/
def Stops (p : Char → Bool) (rest : List Char) : Prop :=
  ∀ c, rest.head? = some c → p c = false

theorem stops_nil : Stops p [] := by
  intro c hc
  cases hc

theorem stops_cons (hc : p c = false) : Stops p (c :: rest) := by
  intro d hd
  cases hd
  exact hc

theorem stops_append (hfront : ∀ c ∈ front, p c = false) (hrest : Stops p rest) :
    Stops p (front ++ rest) := by
  cases front with
  | nil => exact hrest
  | cons c front => exact stops_cons (hfront c List.mem_cons_self)

/-- Classes that have the same characters of a text stop it alike. -/
theorem stops_congr {q : Char → Bool} (h : ∀ c ∈ rest, p c = q c) : Stops p rest ↔ Stops q rest :=
  forall₂_congr fun c hc => by rw [h c (List.mem_of_mem_head? hc)]

theorem takeWhile_append (hfront : ∀ c ∈ front, p c = true) (hrest : Stops p rest) :
    (front ++ rest).takeWhile p = front := by
  rw [List.takeWhile_append_of_pos hfront]
  cases rest with
  | nil => simp
  | cons c rest => simp [hrest c rfl]

theorem dropWhile_append (hfront : ∀ c ∈ front, p c = true) (hrest : Stops p rest) :
    (front ++ rest).dropWhile p = rest := by
  rw [List.dropWhile_append_of_pos hfront]
  cases rest with
  | nil => rfl
  | cons c rest => simp [hrest c rfl]

end Enrollment.Text
