import InlineTag.Log

/-!
# InlineTag.Proofs.WholeTexts

Which filters of a log can be torn. A directive is cut at the places that its parts have in the
trimmed text. Without white space in front these are the places in the text itself, and each of
them is between two characters. So only white space in front of a directive can tear it.

* `Stands`: a part of a text, at its place.
* `Untorn`: reading that does not tear, and what is known of its result.
* `untorn_readDirective`: a directive with no white space in front.
* `whole_of_flush`: a filter of such directives.
-/

namespace InlineTag
namespace Log

open Text

/-! ## Places -/

/-- At this place of a text there is this part of it. -/
def Stands (given : List Char) (place : Nat) (part : List Char) : Prop :=
  ∃ front back, given = front ++ (part ++ back) ∧ place = byteLength front

section Stands

variable {given part rest : List Char} {place : Nat}

theorem Stands.behind (h : Stands given place (part ++ rest)) :
    Stands given (place + byteLength part) rest := by
  obtain ⟨front, back, rfl, rfl⟩ := h
  exact ⟨front ++ part, back, by simp only [List.append_assoc],
    (byteLength_append front part).symm⟩

theorem Stands.tail {c : Char} (h : Stands given place (c :: rest)) (hsize : c.utf8Size = 1) :
    Stands given (place + 1) rest := by
  have hbehind := (show Stands given place ([c] ++ rest) from h).behind
  rwa [byteLength, byteLength, hsize] at hbehind

theorem Stands.bytesBetween (h : Stands given place (part ++ rest)) :
    bytesBetween place (place + byteLength part) given = some part := by
  obtain ⟨front, back, rfl, rfl⟩ := h
  rw [List.append_assoc, ← byteLength_append]
  exact bytesBetween_append front part (rest ++ back)

theorem Stands.dropBytes (h : Stands given place part) :
    ∃ text, dropBytes place given = some text := by
  obtain ⟨front, back, rfl, rfl⟩ := h
  exact ⟨_, dropBytes_append front _⟩

end Stands

/-! ## Reading without tearing -/

/-- The text was not torn, and what was read has a property. -/
def Untorn {α : Type} (property : α → Prop) : Except Misread α → Prop
  | .error misread => misread ≠ .torn
  | .ok found => property found

section Untorn

variable {α β : Type}

theorem Untorn.bind {known : α → Prop} {wanted : β → Prop} {step : Except Misread α}
    {next : α → Except Misread β} (hstep : Untorn known step)
    (hnext : ∀ found, known found → Untorn wanted (next found)) :
    Untorn wanted (step >>= next) := by
  cases step with
  | error misread => exact hstep
  | ok found => exact hnext found hstep

theorem untorn_refused (property : α → Prop) : Untorn property (.error .refused) := by
  rintro ⟨⟩

theorem untorn_unless_refused (found : Option α) :
    Untorn (fun _ => True) (Misread.refused.unless found) := by
  cases found with
  | none => exact untorn_refused _
  | some found => exact trivial

theorem untorn_mapM {read : α → Except Misread β} {texts : List α}
    (h : ∀ text ∈ texts, Untorn (fun _ => True) (read text)) :
    Untorn (fun _ => True) (texts.mapM read) := by
  induction texts with
  | nil => exact trivial
  | cons text texts ih =>
    rw [List.mapM_cons]
    refine (h text List.mem_cons_self).bind fun first _ => ?_
    exact (ih fun other hother => h other (List.mem_cons_of_mem _ hother)).bind fun _ _ => trivial

end Untorn

/-! ## Directives -/

section Directives

variable {given text : List Char} {place : Nat}

theorem untorn_readLevel (h : Stands given place text) :
    Untorn (fun _ => True) (readLevel given place) := by
  obtain ⟨level, hlevel⟩ := h.dropBytes
  rw [readLevel, hlevel]
  cases level with
  | nil => exact trivial
  | cons c rest => exact untorn_unless_refused _

theorem untorn_readLevelPart (h : Stands given place text) :
    Untorn (fun _ => True) (readLevelPart given place text) := by
  unfold readLevelPart
  split
  · exact trivial
  · exact untorn_readLevel (h.tail (by decide))
  · exact untorn_refused _

theorem untorn_readFieldScope (span field : List Char) :
    Untorn (fun _ => True) (readFieldScope span field) := by
  unfold readFieldScope
  split
  · exact trivial
  · split
    · exact trivial
    · exact untorn_refused _

/-- What a scope is read with: the text behind it, at its place. -/
def Left (given : List Char) (found : Scope × Nat × List Char) : Prop :=
  Stands given found.2.1 found.2.2

theorem untorn_readField (span : List Char) (h : Stands given place text) :
    Untorn (Left given) (readField given span place text) := by
  unfold readField
  split
  · exact untorn_refused _
  · rename_i field rest hcut
    obtain ⟨rfl, -⟩ := cutAt_some hcut
    dsimp only
    rw [h.bytesBetween, Misread.unless_some_bind]
    split
    · exact untorn_refused _
    · refine (untorn_readFieldScope span _).bind fun scope _ => ?_
      split
      · rename_i hhead
        obtain ⟨after, rfl⟩ := List.head?_eq_some_iff.mp hhead
        exact (h.behind.tail (by decide)).tail (by decide)
      · exact untorn_refused _

theorem untorn_readScope (h : Stands given place text) :
    Untorn (Left given) (readScope given place text) := by
  unfold readScope
  generalize hinside : (fun c : Char => c != ']' && c != '\x7b') = isInside
  rw [← List.takeWhile_append_dropWhile (p := isInside) (l := text)] at h
  dsimp only
  split
  · exact untorn_refused _
  · rename_i c rest hrest
    rw [hrest] at h
    have hmark : c = ']' ∨ c = '\x7b' := by
      have hstop := List.head_dropWhile_not isInside (l := text) (by simp [hrest])
      simp only [hrest, List.head_cons] at hstop
      simpa only [← hinside, Bool.and_eq_false_iff, bne_eq_false_iff_eq] using hstop
    have hsize : c.utf8Size = 1 := by
      rcases hmark with rfl | rfl <;> decide
    rw [h.bytesBetween, Misread.unless_some_bind]
    split
    · exact h.behind.tail hsize
    · exact untorn_readField _ (h.behind.tail hsize)

/-- A directive with no white space in front is not torn. -/
theorem untorn_readDirective (h : ∀ c, given.head? = some c → isBlank c = false) :
    Untorn (fun _ => True) (readDirective given) := by
  have htrim : Stands given 0 (trim given) := by
    have hstart : trimStart given = given := by
      cases given with
      | nil => rfl
      | cons c rest => exact List.dropWhile_cons_of_neg (by simp [h c rfl])
    obtain ⟨tail, htext, -⟩ := trimEnd_append_blank given
    exact ⟨[], tail, by rw [trim, hstart]; exact htext, rfl⟩
  unfold readDirective
  split
  · exact untorn_refused _
  · rename_i c text htext
    rw [htext] at htrim
    generalize hinside : (fun c : Char => c != '=' && c != '[') = isInside
    rw [← List.takeWhile_append_dropWhile (p := isInside) (l := c :: text)] at htrim
    have htarget := htrim.bytesBetween
    have hbehind := htrim.behind
    rw [Nat.zero_add] at htarget hbehind
    split
    · exact untorn_refused _
    · dsimp only
      rw [htarget]
      split
      · exact trivial
      · rename_i rest hrest
        rw [hrest] at hbehind
        rw [Misread.unless_some_bind]
        refine (untorn_readScope (hbehind.tail (by decide))).bind ?_
        rintro ⟨scope, place, rest⟩ hleft
        exact (untorn_readLevelPart hleft).bind fun _ _ => trivial
      · rw [Misread.unless_some_bind]
        exact (untorn_readLevelPart hbehind).bind fun _ _ => trivial

end Directives

/-! ## Filters -/

/-- The text of a filter, if there is one, is not torn. -/
def Whole (given : Option String) : Prop :=
  ∀ text, given = some text → readFilter text.toList ≠ .error .torn

theorem whole_none : Whole none := by
  rintro text ⟨⟩

/-- A filter whose directives have no white space in front is not torn. -/
theorem whole_of_flush {text : String}
    (h : ∀ piece ∈ pieces ',' text.toList, ∀ c, piece.head? = some c → isBlank c = false) :
    Whole (some text) := by
  rintro _ ⟨⟩ htorn
  have huntorn : Untorn (fun _ => True)
      (((pieces ',' text.toList).filter fun piece => !piece.isEmpty).mapM readDirective) :=
    untorn_mapM fun piece hpiece => untorn_readDirective (h piece (List.mem_filter.mp hpiece).1)
  rw [readFilter] at htorn
  split at htorn
  · rename_i misread hmapM
    rw [hmapM] at huntorn
    cases htorn
    exact huntorn rfl
  · cases htorn
  · cases htorn

/-- White space of two bytes in front of a directive tears it. -/
example : readFilter "\u00a0a=debug".toList = .error .torn := by rfl

end Log
end InlineTag
