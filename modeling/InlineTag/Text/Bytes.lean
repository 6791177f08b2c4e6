/-!
# InlineTag.Text.Bytes

Places in a text, counted in bytes of UTF-8. A place inside a character is none.
-/

namespace InlineTag
namespace Text

def byteLength : List Char → Nat
  | [] => 0
  | c :: rest => c.utf8Size + byteLength rest

/-- The text from a place on. -/
def dropBytes (place : Nat) : List Char → Option (List Char)
  | [] => if place = 0 then some [] else none
  | c :: rest =>
    if place = 0 then some (c :: rest)
    else if c.utf8Size ≤ place then dropBytes (place - c.utf8Size) rest
    else none

/-- The text up to a place. -/
def takeBytes (place : Nat) : List Char → Option (List Char)
  | [] => if place = 0 then some [] else none
  | c :: rest =>
    if place = 0 then some []
    else if c.utf8Size ≤ place then (takeBytes (place - c.utf8Size) rest).map (c :: ·)
    else none

/-- The text from one place to another. -/
def bytesBetween (start stop : Nat) (text : List Char) : Option (List Char) :=
  (dropBytes start text).bind (takeBytes (stop - start))

/-! ## Laws -/

/-- The length in bytes is the size of the text in memory. -/
theorem utf8ByteSize_ofList (text : List Char) :
    (String.ofList text).utf8ByteSize = byteLength text := by
  induction text with
  | nil => rfl
  | cons c rest ih =>
    rw [byteLength, ← ih]
    simp

theorem byteLength_append (front back : List Char) :
    byteLength (front ++ back) = byteLength front + byteLength back := by
  induction front with
  | nil => simp [byteLength]
  | cons c front ih => simp [byteLength, ih, Nat.add_assoc]

theorem byteLength_cons_ne_zero (c : Char) (rest : List Char) : byteLength (c :: rest) ≠ 0 := by
  have hpos := c.utf8Size_pos
  simp only [byteLength]
  omega

/-- Behind a front of a text stands its rest. -/
theorem dropBytes_append (front back : List Char) :
    dropBytes (byteLength front) (front ++ back) = some back := by
  induction front with
  | nil => cases back <;> simp [byteLength, dropBytes]
  | cons c front ih =>
    rw [List.cons_append, dropBytes, if_neg (byteLength_cons_ne_zero c front), byteLength,
      if_pos (Nat.le_add_right _ _), Nat.add_sub_cancel_left, ih]

theorem takeBytes_append (front back : List Char) :
    takeBytes (byteLength front) (front ++ back) = some front := by
  induction front with
  | nil => cases back <;> simp [byteLength, takeBytes]
  | cons c front ih =>
    rw [List.cons_append, takeBytes, if_neg (byteLength_cons_ne_zero c front), byteLength,
      if_pos (Nat.le_add_right _ _), Nat.add_sub_cancel_left, ih, Option.map_some]

/-- A part of a text lies between its own places. -/
theorem bytesBetween_append (front part back : List Char) :
    bytesBetween (byteLength front) (byteLength (front ++ part)) (front ++ (part ++ back)) =
      some part := by
  rw [bytesBetween, dropBytes_append, Option.bind_some, byteLength_append,
    Nat.add_sub_cancel_left, takeBytes_append]

end Text
end InlineTag
