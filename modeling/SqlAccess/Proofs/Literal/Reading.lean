import SqlAccess.Proofs.Ident.RoundTrip
import SqlAccess.Proofs.Literal
import SqlAccess.Proofs.Sql.Encoded

/-!
# Literals and names are read as they were written

Text is escaped character by character, and the scan of a statement skips it byte by byte, with
jumps over what a backslash escapes and a look at what follows a mark.  The two agree on where a
literal ends, whatever the text holds: marks beside the closing one, backslashes at the end,
characters of several bytes.

* `unescaped?` — undoes the escapes of a literal.
* `unescaped?_literal` — escaped text stands for the text.
* **`literal_and_name_read_back`** — the scan stops exactly behind a text literal and behind a name in
  backticks, and what stands between the marks is the text, and the name, again.

All that is asked of what follows is that it does not begin with the same mark.  It would double the
closing one, and the piece would go on.
-/

namespace SqlAccess

open Sql

/-! ## Escapes -/

/-- What a character behind a backslash stands for. -/
def escapeMeaning? : Char → Option Char
  | '0' => some '\x00'
  | 'b' => some '\x08'
  | 't' => some '\t'
  | 'n' => some '\n'
  | 'r' => some '\r'
  | 'Z' => some '\x1a'
  | '"' => some '"'
  | '\'' => some '\''
  | '\\' => some '\\'
  | _ => none

/-- The text that escaped text stands for, unless a backslash escapes nothing. -/
def unescaped? : List Char → Option (List Char)
  | [] => some []
  | [c] => if c = '\\' then none else some [c]
  | c :: d :: text =>
    if c = '\\' then (escapeMeaning? d).bind fun e => (unescaped? text).map (e :: ·)
    else (unescaped? (d :: text)).map (c :: ·)

lemma unescaped?_cons {c : Char} (hc : c ≠ '\\') (text : List Char) :
    unescaped? (c :: text) = (unescaped? text).map (c :: ·) := by
  cases text with
  | nil => simp [unescaped?, hc]
  | cons d text => rw [unescaped?, if_neg hc]

/-- An escape stands for the character that it is written for. -/
lemma escapeMeaning?_of_literalChar {c d : Char} (h : literalChar c = ['\\', d]) :
    escapeMeaning? d = some c := by
  unfold literalChar at h
  split_ifs at h <;> cases h <;> simp_all [escapeMeaning?]

/-- **Escaped text stands for the text.** -/
theorem unescaped?_literal (text : List Char) :
    unescaped? (text.flatMap literalChar) = some text := by
  induction text with
  | nil => rfl
  | cons c text ih =>
      rw [List.flatMap_cons]
      rcases literalChar_cases c with ⟨d, hd⟩ | ⟨hc, -, hescape⟩
      · rw [hd, List.cons_append, List.singleton_append, unescaped?, if_pos rfl,
          escapeMeaning?_of_literalChar hd, ih]
        rfl
      · rw [hc, List.singleton_append, unescaped?_cons hescape, ih, Option.map_some]

/-! ## Where the scan stops -/

lemma size_bytesOf (s : String) : (bytesOf s).size = s.utf8ByteSize := by
  rfl

/-- A piece that is skipped by characters is skipped by bytes, and as many as it has. -/
lemma quotedEnd?_append {piece rest : String}
    (h : afterQuote? (piece.toList ++ rest.toList) = some rest.toList) :
    quotedEnd? (bytesOf (piece ++ rest)) 0 = some piece.utf8ByteSize := by
  have hrest : (utf8 rest.toList).length = rest.utf8ByteSize := by
    rw [← toList_bytesOf, Array.length_toList, size_bytesOf]
  rw [quotedEnd?_eq, List.drop_zero, toList_bytesOf, String.toList_append, quotedRest?_utf8, h,
    Option.map_some, Option.map_some, hrest, size_bytesOf, String.utf8ByteSize_append,
    Nat.add_sub_cancel]

/-- A piece in marks is skipped if its inside ends with the mark behind it. -/
lemma afterQuote?_of_pastMark? {quote : Char} (hquote : isQuote quote = true)
    {body rest : List Char} (h : pastMark? quote body = some rest) :
    afterQuote? (quote :: body) = some rest := by
  rw [afterQuote?, if_pos hquote, afterQuoted_eq, h, Option.getD_some]

/-- **What is written is skipped as a whole and read back.**  Where a text literal stands and no
single quote follows, the scan stops exactly behind the literal, and undoing the escapes of what
stands between its marks gives the text.  Where a name in backticks stands and no backtick follows,
the scan stops exactly behind it, and what stands between its marks gives the name once doubled
backticks are taken for one. -/
theorem literal_and_name_read_back :
    (∀ s rest : String, rest.toList.head? ≠ some '\'' →
      quotedEnd? (bytesOf ((Value.text s).sql ++ rest)) 0 = some (Value.text s).sql.utf8ByteSize ∧
        ∃ inside, (Value.text s).sql.toList = '\'' :: inside ++ ['\''] ∧
          unescaped? inside = some s.toList) ∧
    (∀ name rest : String, rest.toList.head? ≠ some backtick →
      quotedEnd? (bytesOf (backtickedText name ++ rest)) 0 =
          some (backtickedText name).utf8ByteSize ∧
        ∃ inside, (backtickedText name).toList = backtick :: inside ++ [backtick] ∧
          undoubleBackticks inside = some name.toList) := by
  constructor
  · intro s rest hrest
    have hsql : (Value.text s).sql.toList = '\'' :: s.toList.flatMap literalChar ++ ['\''] :=
      String.toList_ofList
    refine ⟨quotedEnd?_append ?_, _, hsql, unescaped?_literal s.toList⟩
    rw [hsql, List.cons_append, List.cons_append, List.append_assoc, List.singleton_append]
    exact afterQuote?_of_pastMark? rfl (pastMark?_literal s.toList hrest)
  · intro name rest hrest
    have hsql : (backtickedText name).toList =
        backtick :: doubleBackticks name.toList ++ [backtick] := String.toList_ofList
    refine ⟨quotedEnd?_append ?_, _, hsql, undoubleBackticks_doubleBackticks name.toList⟩
    rw [hsql, List.cons_append, List.cons_append, List.append_assoc, List.singleton_append]
    exact afterQuote?_of_pastMark? rfl (pastMark?_doubled name.toList hrest)

/-- Marks, a backslash at the end and characters of two bytes; what follows holds marks too. -/
theorem literal_and_name_read_back_of_hostile :
    let literal := "'it\\'s ü\\\\'"
    let name := "`ü```"
    ("`;'".toList.head? ≠ some '\'' ∧ (Value.text "it's ü\\").sql = literal ∧
        quotedEnd? (bytesOf (literal ++ "`;'")) 0 = some 12 ∧
        ∃ inside, literal.toList = '\'' :: inside ++ ['\''] ∧
          unescaped? inside = some "it's ü\\".toList) ∧
      "';`".toList.head? ≠ some backtick ∧ backtickedText "ü`" = name ∧
        quotedEnd? (bytesOf (name ++ "';`")) 0 = some 6 ∧
        ∃ inside, name.toList = backtick :: inside ++ [backtick] ∧
          undoubleBackticks inside = some "ü`".toList := by
  have hquote : "`;'".toList.head? ≠ some '\'' := by decide
  have hbacktick : "';`".toList.head? ≠ some backtick := by decide
  have hliteral := literal_and_name_read_back.1 "it's ü\\" "`;'" hquote
  have hname := literal_and_name_read_back.2 "ü`" "';`" hbacktick
  exact ⟨⟨hquote, by decide, hliteral⟩, hbacktick, by decide, hname⟩

end SqlAccess
