/-!
# InlineTag.Text.Blank

White space, and the trimming of it. Texts are lists of characters here: a tag is taken apart
character by character, and every law about it is an induction over that list.

White space is the property White_Space: 25 characters, among them the no-break space and the
ideographic space, but not the zero-width space and not the byte order mark.
-/

namespace InlineTag
namespace Text

/-- White space: the tab to the carriage return, the space, and nineteen others above ASCII. -/
def isBlank (c : Char) : Bool :=
  let n := c.toNat
  (0x09 ≤ n && n ≤ 0x0D) || n == 0x20 || n == 0x85 || n == 0xA0 || n == 0x1680 ||
    (0x2000 ≤ n && n ≤ 0x200A) || n == 0x2028 || n == 0x2029 || n == 0x202F || n == 0x205F ||
    n == 0x3000

def trimStart (text : List Char) : List Char :=
  text.dropWhile isBlank

def trimEnd : List Char → List Char
  | [] => []
  | c :: rest =>
    match trimEnd rest with
    | [] => if isBlank c then [] else [c]
    | d :: kept => c :: d :: kept

def trim (text : List Char) : List Char :=
  trimEnd (trimStart text)

/-- Nothing but white space. -/
def allBlank (text : List Char) : Bool :=
  text.all isBlank

/-! ## Laws -/

theorem isBlank_space : isBlank ' ' = true := by decide

theorem isBlank_colon : isBlank ':' = false := by decide

theorem trimEnd_nil : trimEnd [] = [] := rfl

theorem trimEnd_cons (c : Char) (rest : List Char) :
    trimEnd (c :: rest) =
      if trimEnd rest = [] then (if isBlank c then [] else [c]) else c :: trimEnd rest := by
  rw [trimEnd]
  cases trimEnd rest <;> simp

/-- What is trimmed away is white space only. -/
theorem trimEnd_append_blank (text : List Char) :
    ∃ tail, text = trimEnd text ++ tail ∧ ∀ c ∈ tail, isBlank c = true := by
  induction text with
  | nil => exact ⟨[], rfl, by simp⟩
  | cons c rest ih =>
    obtain ⟨tail, htext, htail⟩ := ih
    rw [trimEnd_cons]
    by_cases hrest : trimEnd rest = []
    · rw [hrest, List.nil_append] at htext
      by_cases hc : isBlank c = true
      · refine ⟨c :: rest, by simp [hrest, hc], ?_⟩
        intro d hd
        rcases List.mem_cons.mp hd with rfl | hd
        · exact hc
        · exact htail d (htext ▸ hd)
      · exact ⟨rest, by simp [hrest, hc], fun d hd => htail d (htext ▸ hd)⟩
    · refine ⟨tail, ?_, htail⟩
      rw [if_neg hrest, List.cons_append, ← htext]

end Text
end InlineTag
