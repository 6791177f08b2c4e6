import Mathlib
import InlineTag.Toml.Quotation
import InlineTag.Toml.Written

/-!
# InlineTag.Proofs.WrittenStrings

A written string is read back by the reader of documents, whichever of its forms it has, and the
reader stops where the string ends.

* `WrittenAs`: how a character stands inside double quotes, and what it takes to read it.
* `shortString_escapedText`, `longString_escapedText`: the readers of strings on one line and over
  several lines undo the escapes.
* `string_stringText`: so does the reader of strings, for all forms.
-/

namespace InlineTag
namespace Toml

/-! ## Characters inside quotes -/

/-- How a character stands inside double quotes: as itself, or as an escape that is read as it. -/
inductive WrittenAs (triple : Bool) (c : Char) : List Char → Prop where
  | plain (hplain : isPlain c = true ∨ triple = true ∧ c = '\n') (hquote : c ≠ '"')
      (hbackslash : c ≠ '\\') : WrittenAs triple c [c]
  | escape {mark : Char} {code : List Char} (hspace : isSpace mark = false)
      (hline : mark ≠ '\n' ∧ mark ≠ '\r')
      (hread : ∀ rest, escape (mark :: (code ++ rest)) = some (c, rest)) :
      WrittenAs triple c ('\\' :: mark :: code)

theorem WrittenAs.head?_ne {triple : Bool} {c : Char} {code rest : List Char}
    (h : WrittenAs triple c code) : (code ++ rest).head? ≠ some '"' := by
  cases h with
  | plain _ hquote _ => simpa using hquote
  | escape => simp

theorem isPlain_iff {c : Char} : isPlain c = true ↔ isControl c = false ∧ c ≠ '\n' := by
  have htab : c = '\t' ↔ c.toNat = 9 := by
    rw [← Char.toNat_inj]
    rfl
  have hnewline : c = '\n' ↔ c.toNat = 10 := by
    rw [← Char.toNat_inj]
    rfl
  simp only [isPlain, isControl, Bool.or_eq_true, Bool.and_eq_true, Bool.or_eq_false_iff,
    Bool.and_eq_false_iff, beq_iff_eq, beq_eq_false_iff_ne, bne_eq_false_iff_eq, ne_eq,
    decide_eq_true_eq, decide_eq_false_iff_not, htab, hnewline]
  omega

theorem toNat_lt_of_isControl {c : Char} (h : isControl c = true) : c.toNat < 128 := by
  simp only [isControl, Bool.or_eq_true, Bool.and_eq_true, decide_eq_true_eq, beq_iff_eq] at h
  omega

theorem codePoint_hexFour : ∀ n < 128,
    (hexFour n).length = 4 ∧ codePoint (hexFour n) = some (Char.ofNat n) := by
  decide +kernel

theorem escape_hexFour {n : Nat} (hn : n < 128) (rest : List Char) :
    escape ('u' :: (hexFour n ++ rest)) = some (Char.ofNat n, rest) := by
  obtain ⟨hlength, hpoint⟩ := codePoint_hexFour n hn
  have htake : (hexFour n ++ rest).take 4 = hexFour n := by
    rw [← hlength, List.take_left]
  have hdrop : (hexFour n ++ rest).drop 4 = rest := by
    rw [← hlength, List.drop_left]
  rw [escape, if_pos (by simp [hlength]), htake, hdrop, hpoint, Option.map_some]

theorem writtenAs_quote (triple : Bool) : WrittenAs triple '"' ['\\', '"'] :=
  .escape rfl (by decide) fun _ => rfl

theorem writtenAs_escapedChar (triple : Bool) {c : Char} (hquote : c ≠ '"') :
    WrittenAs triple c (escapedChar triple c) := by
  unfold escapedChar
  split_ifs with hback htab hfeed hreturn hbackslash hnewline htriple hcontrol
  · subst hback; exact .escape rfl (by decide) fun _ => rfl
  · subst htab; exact .escape rfl (by decide) fun _ => rfl
  · subst hfeed; exact .escape rfl (by decide) fun _ => rfl
  · subst hreturn; exact .escape rfl (by decide) fun _ => rfl
  · subst hbackslash; exact .escape rfl (by decide) fun _ => rfl
  · subst hnewline; exact .plain (.inr ⟨htriple, rfl⟩) hquote hbackslash
  · subst hnewline; exact .escape rfl (by decide) fun _ => rfl
  · refine .escape rfl (by decide) fun rest => ?_
    rw [escape_hexFour (toNat_lt_of_isControl hcontrol), Char.ofNat_toNat]
  · exact .plain (.inl (isPlain_iff.mpr ⟨by simpa using hcontrol, hnewline⟩)) hquote hbackslash

/-! ## Strings on one line -/

/-- Puts content in front of what is read after it. -/
def prepend (front : List Char) : List Char × List Char → List Char × List Char
  | (content, tail) => (front ++ content, tail)

variable {c quote : Char} {code text rest : List Char}

theorem shortString_plain (hplain : isPlain c = true) (hquote : c ≠ quote)
    (hbackslash : ¬ (c = '\\' ∧ quote = '"')) :
    shortString quote (c :: rest) = (shortString quote rest).map (prepend [c]) := by
  rw [shortString, if_neg hquote, if_neg hbackslash, if_pos hplain]
  rfl

theorem WrittenAs.shortString (h : WrittenAs false c code) :
    shortString '"' (code ++ rest) = (shortString '"' rest).map (prepend [c]) := by
  cases h with
  | plain hplain hquote hbackslash =>
    have hplain : isPlain c = true := by simpa using hplain
    exact shortString_plain hplain hquote fun h => hbackslash h.1
  | @escape mark code hspace hline hread =>
    have hshorter : rest.length ≤ (mark :: (code ++ rest)).length := by
      simp
      omega
    rw [List.cons_append, List.cons_append, Toml.shortString, if_neg (by decide),
      if_pos ⟨rfl, rfl⟩, hread]
    simp only [hshorter, dite_true]
    rfl

theorem shortString_escapedText (run : Nat) :
    shortString '"' (escapedText false run text ++ '"' :: rest) = some (text, rest) := by
  induction text generalizing run with
  | nil => rw [escapedText, List.nil_append, shortString, if_pos rfl]
  | cons c text ih =>
    rw [escapedText]
    split
    · rename_i hquote
      subst hquote
      have hcode : '\\' :: '"' :: escapedText false 0 text =
          ['\\', '"'] ++ escapedText false 0 text := rfl
      rw [Bool.false_and, if_neg Bool.false_ne_true, hcode, List.append_assoc,
        (writtenAs_quote false).shortString, ih 0]
      rfl
    · rename_i hquote
      rw [List.append_assoc, (writtenAs_escapedChar false hquote).shortString, ih 0]
      rfl

theorem shortString_literal (hplain : ∀ c ∈ text, isPlain c = true) (hquote : '\'' ∉ text) :
    shortString '\'' (text ++ '\'' :: rest) = some (text, rest) := by
  induction text with
  | nil => rw [List.nil_append, shortString, if_pos rfl]
  | cons c text ih =>
    obtain ⟨hc, hplain⟩ := List.forall_mem_cons.mp hplain
    rw [List.mem_cons, not_or] at hquote
    obtain ⟨hne, hquote⟩ := hquote
    rw [List.cons_append, shortString_plain hc (Ne.symm hne) (by simp), ih hplain hquote]
    rfl

/-! ## Strings over several lines -/

theorem newline_eq_none (hnewline : text.head? ≠ some '\n') (hreturn : text.head? ≠ some '\r') :
    newline text = none := by
  unfold newline
  split
  · simp at hnewline
  · simp at hreturn
  · rfl

theorem newline_cons_of_isPlain (hplain : isPlain c = true) : newline (c :: rest) = none := by
  refine newline_eq_none ?_ ?_
  · rintro ⟨⟩
    cases hplain
  · rintro ⟨⟩
    cases hplain

theorem longString_plain (hplain : isPlain c = true ∨ c = '\n') (hquote : c ≠ quote)
    (hbackslash : ¬ (c = '\\' ∧ quote = '"')) :
    longString quote (c :: rest) = (longString quote rest).map (prepend [c]) := by
  rw [longString, if_neg hquote, if_neg hbackslash]
  rcases hplain with hplain | rfl
  · rw [newline_cons_of_isPlain hplain]
    simp only [hplain, if_true]
    rfl
  · simp [newline]
    rfl

theorem WrittenAs.longString (h : WrittenAs true c code) :
    longString '"' (code ++ rest) = (longString '"' rest).map (prepend [c]) := by
  cases h with
  | plain hplain hquote hbackslash =>
    exact longString_plain (by simpa using hplain) hquote fun h => hbackslash h.1
  | @escape mark code hspace hline hread =>
    have hshorter : rest.length ≤ (mark :: (code ++ rest)).length := by
      simp
      omega
    have hskip : skipSpaces (mark :: (code ++ rest)) = mark :: (code ++ rest) := by
      rw [skipSpaces, List.dropWhile_cons_of_neg (by simp [hspace])]
    have hgoes : continuation (mark :: (code ++ rest)) = none := by
      rw [continuation, hskip, newline_eq_none (by simpa using hline.1) (by simpa using hline.2)]
      rfl
    rw [List.cons_append, List.cons_append, Toml.longString, if_neg (by decide),
      if_pos ⟨rfl, rfl⟩, hgoes, hread]
    simp only [hshorter, dite_true]
    rfl

theorem span_replicate (run : Nat) (hrest : rest.head? ≠ some quote) :
    (List.replicate run quote ++ rest).takeWhile (· == quote) = List.replicate run quote ∧
      (List.replicate run quote ++ rest).dropWhile (· == quote) = rest := by
  have hquotes : ∀ c ∈ List.replicate run quote, (c == quote) = true := by
    intro c hc
    exact beq_iff_eq.mpr (List.eq_of_mem_replicate hc)
  rw [List.takeWhile_append_of_pos hquotes, List.dropWhile_append_of_pos hquotes]
  cases rest with
  | nil => simp
  | cons c rest =>
    have hc : c ≠ quote := by simpa using hrest
    simp [hc]

/-- Up to two quotes in a row are content. -/
theorem longString_run {run : Nat} (hrun : run ≤ 2) (hrest : rest.head? ≠ some quote) :
    longString quote (List.replicate run quote ++ rest) =
      (longString quote rest).map (prepend (List.replicate run quote)) := by
  cases run with
  | zero =>
    have hnone : prepend (List.replicate 0 quote) = id := rfl
    rw [hnone, Option.map_id, id_eq]
    rfl
  | succ run =>
    obtain ⟨htake, hdrop⟩ := span_replicate run hrest
    rw [List.replicate_succ, List.cons_append, longString, if_pos rfl, htake, hdrop,
      List.length_replicate, if_pos (by omega)]
    rfl

/-- Three quotes end the content, and up to two more before them belong to it. -/
theorem longString_close {run : Nat} (hrun : run ≤ 2) (hrest : rest.head? ≠ some quote) :
    longString quote (List.replicate run quote ++ quote :: quote :: quote :: rest) =
      some (List.replicate run quote, rest) := by
  have hquotes : List.replicate run quote ++ quote :: quote :: quote :: rest =
      quote :: (List.replicate (run + 2) quote ++ rest) := by
    have hone : quote :: List.replicate run quote = List.replicate run quote ++ [quote] := by
      rw [← List.replicate_succ, List.replicate_succ']
    rw [List.replicate_succ', List.replicate_succ', ← List.cons_append, ← List.cons_append,
      ← List.cons_append, hone]
    simp
  obtain ⟨htake, hdrop⟩ := span_replicate (run + 2) hrest
  rw [hquotes, longString, if_pos rfl, htake, hdrop, List.length_replicate,
    if_neg (by omega), if_pos (by omega)]
  rfl

theorem prepend_prepend (front more : List Char) (read : Option (List Char × List Char)) :
    (read.map (prepend more)).map (prepend front) = read.map (prepend (front ++ more)) := by
  cases read <;> simp [prepend]

theorem WrittenAs.longString_run (h : WrittenAs true c code) {run : Nat} (hrun : run ≤ 2) :
    Toml.longString '"' (List.replicate run '"' ++ (code ++ rest)) =
      (Toml.longString '"' rest).map (prepend (List.replicate run '"' ++ [c])) := by
  rw [Toml.longString_run hrun h.head?_ne, h.longString, prepend_prepend]

theorem longString_escapedText {run : Nat} (hrun : run ≤ 2) (hrest : rest.head? ≠ some '"') :
    longString '"' (List.replicate run '"' ++ (escapedText true run text ++
      '"' :: '"' :: '"' :: rest)) = some (List.replicate run '"' ++ text, rest) := by
  induction text generalizing run with
  | nil =>
    rw [escapedText, List.nil_append, longString_close hrun hrest, List.append_nil]
  | cons c text ih =>
    have hnext := ih (Nat.zero_le 2)
    rw [List.replicate_zero, List.nil_append, List.nil_append] at hnext
    rw [escapedText]
    split
    · rename_i hquote
      subst hquote
      split
      · -- one more quote in a row
        rename_i hmore
        have hmore : run + 1 ≤ 2 := by simpa using hmore
        have hone := ih hmore
        rw [List.replicate_succ'] at hone
        simpa using hone
      · have hcode : '\\' :: '"' :: escapedText true 0 text =
            ['\\', '"'] ++ escapedText true 0 text := rfl
        rw [hcode, List.append_assoc, (writtenAs_quote true).longString_run hrun, hnext]
        simp [prepend]
    · rename_i hquote
      rw [List.append_assoc, (writtenAs_escapedChar true hquote).longString_run hrun, hnext]
      simp [prepend]

theorem longString_literal {run : Nat} (hruns : longestRun '\'' run text ≤ 2)
    (hplain : ∀ c ∈ text, isPlain c = true ∨ c = '\n') (hrest : rest.head? ≠ some '\'') :
    longString '\'' (List.replicate run '\'' ++ (text ++ '\'' :: '\'' :: '\'' :: rest)) =
      some (List.replicate run '\'' ++ text, rest) := by
  induction text generalizing run with
  | nil =>
    have hrun : run ≤ 2 := hruns
    rw [List.nil_append, longString_close hrun hrest, List.append_nil]
  | cons c text ih =>
    obtain ⟨hc, hplain⟩ := List.forall_mem_cons.mp hplain
    rw [longestRun] at hruns
    split at hruns
    · -- one more quote in a row
      rename_i hquote
      have hone := ih hruns hplain
      rw [List.replicate_succ'] at hone
      simpa [hquote] using hone
    · rename_i hquote
      obtain ⟨hrun, hruns⟩ := Nat.max_le.mp hruns
      have hnext := ih hruns hplain
      rw [List.replicate_zero, List.nil_append, List.nil_append] at hnext
      rw [longString_run hrun (by simpa using hquote), List.cons_append,
        longString_plain hc hquote (by simp), hnext]
      simp [prepend]

/-! ## The forms of a written string -/

/-- The text does not begin with a quote, which could be taken for one more of a string's. -/
def StartsUnquoted (rest : List Char) : Prop :=
  ∀ quote, isQuote quote = true → rest.head? ≠ some quote

theorem string_single (hquote : isQuote quote = true) {inner content : List Char}
    (hread : shortString quote (inner ++ quote :: rest) = some (content, rest))
    (hinner : inner.head? ≠ some quote) (hrest : StartsUnquoted rest) :
    string (quote :: (inner ++ [quote]) ++ rest) = some (String.ofList content, rest) := by
  have happend : quote :: (inner ++ [quote]) ++ rest = quote :: (inner ++ quote :: rest) := by simp
  have hopen : ∀ more, inner ++ quote :: rest ≠ quote :: quote :: more := by
    intro more h
    cases inner with
    | nil =>
      rw [List.nil_append, List.cons.injEq] at h
      exact hrest quote hquote (by rw [h.2]; rfl)
    | cons c inner =>
      rw [List.cons_append, List.cons.injEq] at h
      exact hinner (by rw [h.1]; rfl)
  rw [happend]
  generalize inner ++ quote :: rest = text at hread hopen ⊢
  unfold string
  split
  · rename_i a b c more heq
    obtain ⟨rfl, rfl⟩ := List.cons.inj heq
    have hnot : ¬ (quote = b ∧ b = c) := by
      rintro ⟨rfl, rfl⟩
      exact hopen more rfl
    rw [hquote, hread, if_neg hnot]
    rfl
  · rename_i heq
    obtain ⟨rfl, rfl⟩ := List.cons.inj heq
    rw [hquote, hread]
    rfl
  · rename_i heq
    cases heq

theorem string_tripled (hquote : isQuote quote = true) {inner content : List Char}
    (hread : longString quote (inner ++ quote :: quote :: quote :: rest) = some (content, rest))
    (hline : text.contains '\n' = false →
      newline (inner ++ quote :: quote :: quote :: rest) = none) :
    string (tripled quote text inner ++ rest) = some (String.ofList content, rest) := by
  have hopen : openLong quote ((if text.contains '\n' then ['\n'] else []) ++
      (inner ++ quote :: quote :: quote :: rest)) = some (content, rest) := by
    split
    · exact hread
    · rename_i hnone
      rw [List.nil_append, openLong, hline (by simpa using hnone)]
      exact hread
  have htripled : tripled quote text inner ++ rest = quote :: quote :: quote ::
      ((if text.contains '\n' then ['\n'] else []) ++
        (inner ++ quote :: quote :: quote :: rest)) := by
    simp [tripled]
  rw [htripled, string, hquote, hopen]
  simp

theorem string_basic (hrest : StartsUnquoted rest) :
    string ('"' :: (escapedText false 0 text ++ ['"']) ++ rest) =
      some (String.ofList text, rest) := by
  refine string_single rfl (shortString_escapedText 0) ?_ hrest
  cases text with
  | nil => simp [escapedText]
  | cons c text =>
    rw [escapedText]
    split
    · simp
    · rename_i hquote
      exact (writtenAs_escapedChar false hquote).head?_ne

theorem string_literal (hplain : ∀ c ∈ text, isPlain c = true) (hquote : '\'' ∉ text)
    (hrest : StartsUnquoted rest) :
    string ('\'' :: (text ++ ['\'']) ++ rest) = some (String.ofList text, rest) := by
  refine string_single rfl (shortString_literal hplain hquote) ?_ hrest
  exact fun hhead => hquote (List.mem_of_mem_head? hhead)

theorem newline_escapedText (hnone : text.contains '\n' = false) :
    newline (escapedText true 0 text ++ '"' :: rest) = none := by
  cases text with
  | nil => rfl
  | cons c text =>
    have hc : c ≠ '\n' := by
      rintro rfl
      simp at hnone
    rw [escapedText]
    split
    · split <;> rfl
    · rename_i hquote
      have hcode := writtenAs_escapedChar true hquote
      rw [List.append_assoc]
      generalize escapedChar true c = code at hcode ⊢
      cases hcode with
      | plain hplain => exact newline_cons_of_isPlain (hplain.resolve_right fun h => hc h.2)
      | escape => rfl

theorem string_tripled_escaped (hrest : StartsUnquoted rest) :
    string (tripled '"' text (escapedText true 0 text) ++ rest) =
      some (String.ofList text, rest) :=
  string_tripled rfl (longString_escapedText (Nat.zero_le 2) (hrest '"' rfl))
    newline_escapedText

theorem string_tripled_literal (hruns : longestRun '\'' 0 text ≤ 2)
    (hplain : ∀ c ∈ text, isPlain c = true ∨ c = '\n') (hrest : StartsUnquoted rest) :
    string (tripled '\'' text text ++ rest) = some (String.ofList text, rest) := by
  refine string_tripled rfl (longString_literal hruns hplain (hrest '\'' rfl)) ?_
  intro hnone
  cases text with
  | nil => rfl
  | cons c text =>
    have hc : c ≠ '\n' := by
      rintro rfl
      simp at hnone
    exact newline_cons_of_isPlain ((hplain c List.mem_cons_self).resolve_right hc)

theorem string_escapedString (hrest : StartsUnquoted rest) :
    string (escapedString text ++ rest) = some (String.ofList text, rest) := by
  rw [escapedString]
  split
  · exact string_tripled_escaped hrest
  · exact string_basic hrest

/-- A written string is read back, whichever of its forms it has. -/
theorem string_stringText (text : List Char) (hrest : StartsUnquoted rest) :
    string (stringText text ++ rest) = some (String.ofList text, rest) := by
  rw [stringText]
  split
  · exact string_escapedString hrest
  rename_i hcontrol
  have hplain : ∀ c ∈ text, isPlain c = true ∨ c = '\n' := by
    intro c hc
    by_cases hnewline : c = '\n'
    · exact .inr hnewline
    · refine .inl (isPlain_iff.mpr ⟨?_, hnewline⟩)
      simpa using fun h => hcontrol (List.any_eq_true.mpr ⟨c, hc, h⟩)
  split
  · exact string_basic hrest
  split
  · rename_i hliteral
    simp only [Bool.and_eq_true, Bool.not_eq_true', List.contains_eq_mem,
      decide_eq_false_iff_not] at hliteral
    obtain ⟨hquote, hnewline⟩ := hliteral
    refine string_literal (fun c hc => ?_) hquote hrest
    exact (hplain c hc).resolve_right fun heq => hnewline (heq ▸ hc)
  split
  · exact string_tripled_escaped hrest
  split
  · rename_i hruns
    exact string_tripled_literal hruns hplain hrest
  · exact string_escapedString hrest

end Toml
end InlineTag
