import Mathlib
import InlineTag.Number.Digits
import InlineTag.Text.Cut
import InlineTag.Text.Quoted

/-!
# InlineTag.Proofs.QuotedTexts

A quoted text says what it quotes and where it ends, whatever stands behind it.

* `SelfDelimiting`: words that can be told apart and cut off at the front of a text.
* `SelfDelimiting.flatMap`: so can a list of words be, where something else follows.
* `selfDelimiting_quoted`: quoted texts are such words.
-/

namespace InlineTag

/-- What is written for a value can be cut off at the front of a text, and tells the value. -/
def SelfDelimiting {α : Type} (allowed : α → Prop) (code : α → List Char) : Prop :=
  ∀ a b front back, allowed a → allowed b → code a ++ front = code b ++ back →
    a = b ∧ front = back

/-- Values are told one by one up to something that is not what is written for a value. -/
theorem SelfDelimiting.flatMap {α : Type} {allowed : α → Prop} {code : α → List Char}
    (hcode : SelfDelimiting allowed code) {front back : List Char}
    (hfront : ∀ a rest, allowed a → code a ++ rest ≠ front)
    (hback : ∀ a rest, allowed a → code a ++ rest ≠ back) {values others : List α}
    (hvalues : ∀ a ∈ values, allowed a) (hothers : ∀ a ∈ others, allowed a)
    (h : values.flatMap code ++ front = others.flatMap code ++ back) :
    values = others ∧ front = back := by
  induction values generalizing others with
  | nil =>
    cases others with
    | nil => exact ⟨rfl, h⟩
    | cons b others =>
      rw [List.flatMap_cons, List.append_assoc] at h
      exact absurd h.symm (hfront b _ (hothers b List.mem_cons_self))
  | cons a values ih =>
    obtain ⟨ha, hvalues⟩ := List.forall_mem_cons.mp hvalues
    cases others with
    | nil =>
      rw [List.flatMap_cons, List.append_assoc] at h
      exact absurd h (hback a _ ha)
    | cons b others =>
      obtain ⟨hb, htail⟩ := List.forall_mem_cons.mp hothers
      rw [List.flatMap_cons, List.append_assoc, List.flatMap_cons, List.append_assoc] at h
      obtain ⟨rfl, hrest⟩ := hcode a b _ _ ha hb h
      obtain ⟨rfl, hends⟩ := ih hvalues htail hrest
      exact ⟨rfl, hends⟩

namespace Text

/-! ## Hexadecimal digits -/

/-- The digits of a number, one added behind the others at a time. -/
theorem toDigits_induction (holds : Nat → List Char → Prop)
    (hone : ∀ n < 16, holds n [n.digitChar])
    (hmore : ∀ n digits, ∀ d < 16, holds n digits → holds (n * 16 + d) (digits ++ [d.digitChar]))
    (n : Nat) : holds n (Nat.toDigits 16 n) := by
  induction n using Nat.strongRecOn with
  | ind n ih =>
    by_cases hsmall : n < 16
    · rw [Nat.toDigits_of_lt_base hsmall]
      exact hone n hsmall
    · have hfront := ih (n / 16) (by omega)
      have hdigits := hmore (n / 16) _ (n % 16) (Nat.mod_lt _ (by decide)) hfront
      rw [Nat.toDigits_of_base_le (by decide) (by omega)]
      rwa [Nat.div_add_mod'] at hdigits

theorem numeral_toDigits (n : Nat) : Number.numeral 16 (Nat.toDigits 16 n) = n := by
  have hdigit : ∀ d < 16, Number.digitValue d.digitChar = d := by decide
  refine toDigits_induction (fun n digits => Number.numeral 16 digits = n) (fun n hn => ?_)
    (fun n digits d hd hnumeral => ?_) n
  · rw [Number.numeral, List.foldl_cons, List.foldl_nil, hdigit n hn, Nat.zero_mul, Nat.zero_add]
  · rw [Number.numeral] at hnumeral ⊢
    rw [List.foldl_append, hnumeral, List.foldl_cons, List.foldl_nil, hdigit d hd]

theorem all_isHexDigit_toDigits (n : Nat) : ∀ c ∈ Nat.toDigits 16 n, Number.isHexDigit c = true := by
  have hdigit : ∀ d < 16, Number.isHexDigit d.digitChar = true := by decide
  refine toDigits_induction (fun _ digits => ∀ c ∈ digits, Number.isHexDigit c = true)
    (fun n hn => ?_) (fun n digits d hd hdigits => ?_) n
  · simpa using hdigit n hn
  · intro c hc
    rcases List.mem_append.mp hc with hc | hc
    · exact hdigits c hc
    · rw [List.mem_singleton.mp hc]
      exact hdigit d hd

/-! ## Quoted characters -/

/-- The character that is meant behind a backslash. -/
def escaped : List Char → Char
  | 't' :: _ => '\t'
  | 'n' :: _ => '\n'
  | 'r' :: _ => '\r'
  | '0' :: _ => '\x00'
  | 'u' :: '\x7b' :: rest => Char.ofNat (Number.numeral 16 (rest.takeWhile (· != '\x7d')))
  | c :: _ => c
  | [] => default

/-- The character that a quoted text shows first. -/
def unquoted : List Char → Char
  | [] => default
  | c :: rest => if c = '\\' then escaped rest else c

theorem unquoted_codePointEscape (c : Char) (rest : List Char) :
    unquoted (codePointEscape c ++ rest) = c := by
  have hdigits : ∀ d ∈ Nat.toDigits 16 c.toNat, (d != '\x7d') = true := by
    intro d hd
    refine bne_iff_ne.mpr ?_
    rintro rfl
    exact absurd (all_isHexDigit_toDigits _ _ hd) (by decide)
  have hbraces : (Nat.toDigits 16 c.toNat ++ '\x7d' :: rest).takeWhile (· != '\x7d') =
      Nat.toDigits 16 c.toNat := (takeWhile_append_mark hdigits rfl rest).1
  have hescape : codePointEscape c ++ rest =
      '\\' :: 'u' :: '\x7b' :: (Nat.toDigits 16 c.toNat ++ '\x7d' :: rest) := by
    simp [codePointEscape]
  rw [hescape, unquoted, if_pos rfl, escaped, hbraces, numeral_toDigits, Char.ofNat_toNat]

theorem unquoted_quotedChar (c : Char) (rest : List Char) :
    unquoted (quotedChar c ++ rest) = c := by
  unfold quotedChar
  split_ifs with htab hnewline hreturn hnull hbackslash hquote
  · exact htab.symm
  · exact hnewline.symm
  · exact hreturn.symm
  · exact hnull.symm
  · exact hbackslash.symm
  · exact hquote.symm
  · exact unquoted_codePointEscape c rest
  · exact if_neg hbackslash

theorem selfDelimiting_quotedChar : SelfDelimiting (fun _ => True) quotedChar := by
  intro a b front back _ _ h
  have hchar := congrArg unquoted h
  rw [unquoted_quotedChar, unquoted_quotedChar] at hchar
  subst hchar
  exact ⟨rfl, List.append_cancel_left h⟩

/-- No quoted character begins with the quote that ends a quoted text. -/
theorem quotedChar_append_ne (c : Char) (rest other : List Char) :
    quotedChar c ++ rest ≠ '"' :: other := by
  intro h
  have hc : c = '"' := by
    rw [← unquoted_quotedChar c rest, h]
    rfl
  subst hc
  cases h

theorem quoted_append (text : String) (rest : List Char) :
    (quoted text).toList ++ rest = '"' :: (text.toList.flatMap quotedChar ++ '"' :: rest) := by
  simp [quoted]

theorem selfDelimiting_quoted :
    SelfDelimiting (fun _ => True) fun text => (quoted text).toList := by
  intro a b front back _ _ h
  rw [quoted_append, quoted_append, List.cons.injEq] at h
  obtain ⟨htext, hends⟩ := selfDelimiting_quotedChar.flatMap
    (fun c rest _ => quotedChar_append_ne c rest front)
    (fun c rest _ => quotedChar_append_ne c rest back) (by simp) (by simp) h.2
  exact ⟨String.toList_injective htext, (List.cons.inj hends).2⟩

end Text
end InlineTag
