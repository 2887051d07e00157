import SqlAccess.Proofs.Sql.Scan

/-!
# The scan of encoded characters

Bytes are scanned and characters are meant.  The two agree because everything that the scan looks
for is ASCII: an ASCII character is one byte, and the bytes of any other character are no ASCII
bytes (`mem_utf8EncodeChar`).  So a step of the walk over the bytes of a text leaves the bytes of
what the same step over its characters leaves (`commentRest?_utf8`, `quotedRest?_utf8`), also where
a backslash makes it jump into the middle of a character.

**`holdsSeveral_eq`** — the walk answers what the pieces of the text tell.
-/

namespace SqlAccess.Sql

/-! ## Characters and their bytes -/

/-- The bytes of characters. -/
def utf8 (text : List Char) : List UInt8 :=
  text.flatMap String.utf8EncodeChar

lemma utf8_cons (c : Char) (text : List Char) :
    utf8 (c :: text) = String.utf8EncodeChar c ++ utf8 text :=
  List.flatMap_cons

lemma utf8_append (text more : List Char) : utf8 (text ++ more) = utf8 text ++ utf8 more :=
  List.flatMap_append

lemma toList_bytesOf (s : String) : (bytesOf s).toList = utf8 s.toList := by
  show s.toByteArray.data.toList = _
  rw [← String.utf8Encode_toList, List.utf8Encode, List.toList_data_toByteArray]
  rfl

lemma toNat_ofNat_high {n : Nat} (h : 128 ≤ n) (hbyte : n < 256) :
    128 ≤ (UInt8.ofNat n).toNat := by
  rwa [UInt8.toNat_ofNat', Nat.mod_eq_of_lt hbyte]

/-- **A character is an ASCII byte, or none of its bytes is one.** -/
lemma mem_utf8EncodeChar {c : Char} {b : UInt8} (h : b ∈ String.utf8EncodeChar c) :
    c.toNat < 128 ∧ b.toNat = c.toNat ∨ 128 ≤ c.toNat ∧ 128 ≤ b.toNat := by
  have hc : c.val.toNat = c.toNat := rfl
  unfold String.utf8EncodeChar at h
  simp only [hc] at h
  split_ifs at h with hone htwo hthree <;>
    simp only [List.mem_cons, List.not_mem_nil, or_false] at h
  · subst h
    exact .inl ⟨by omega, by rw [UInt8.toNat_ofNat', Nat.mod_eq_of_lt (by omega)]⟩
  · refine .inr ⟨by omega, ?_⟩
    rcases h with rfl | rfl <;> exact toNat_ofNat_high (by omega) (by omega)
  · refine .inr ⟨by omega, ?_⟩
    rcases h with rfl | rfl | rfl <;> exact toNat_ofNat_high (by omega) (by omega)
  · refine .inr ⟨by omega, ?_⟩
    rcases h with rfl | rfl | rfl | rfl <;> exact toNat_ofNat_high (by omega) (by omega)

lemma toNat_toUInt8 {c : Char} (h : c.toNat < 128) : c.toUInt8.toNat = c.toNat := by
  show c.toNat % 256 = c.toNat
  omega

/-- An ASCII character is one byte. -/
lemma utf8EncodeChar_ascii {c : Char} (h : c.toNat < 128) :
    String.utf8EncodeChar c = [c.toUInt8] := by
  have hc : c.val.toNat ≤ 127 := Nat.le_of_lt_succ h
  unfold String.utf8EncodeChar
  simp only [if_pos hc]
  refine congrArg (fun b => [b]) (UInt8.toNat_inj.mp ?_)
  rw [toNat_toUInt8 h, UInt8.toNat_ofNat', Nat.mod_eq_of_lt (by omega)]
  rfl

lemma utf8_cons_ascii {c : Char} (h : c.toNat < 128) (text : List Char) :
    utf8 (c :: text) = c.toUInt8 :: utf8 text := by
  rw [utf8_cons, utf8EncodeChar_ascii h]
  rfl

/-- A character has bytes. -/
lemma exists_utf8EncodeChar (c : Char) :
    ∃ b bytes, String.utf8EncodeChar c = b :: bytes :=
  List.exists_cons_of_ne_nil String.utf8EncodeChar_ne_nil

lemma toNat_ofUInt8 (b : UInt8) : (Char.ofUInt8 b).toNat = b.toNat := by
  rfl

lemma apply_eq_false {p : Char → Bool} (hp : ∀ c, p c = true → c.toNat < 128) {c : Char}
    (h : 128 ≤ c.toNat) : p c = false :=
  Bool.eq_false_iff.mpr fun hpc => Nat.not_lt.mpr h (hp c hpc)

/-- A property of ASCII characters is told by any byte. -/
lemma apply_ofUInt8_of_mem {p : Char → Bool} (hp : ∀ c, p c = true → c.toNat < 128) {c : Char}
    {b : UInt8} (h : b ∈ String.utf8EncodeChar c) : p (Char.ofUInt8 b) = p c := by
  rcases mem_utf8EncodeChar h with ⟨-, hsame⟩ | ⟨hc, hb⟩
  · rw [Char.toNat_inj.mp ((toNat_ofUInt8 b).trans hsame)]
  · rw [apply_eq_false hp hc, apply_eq_false hp (by rwa [toNat_ofUInt8])]

/-- A byte of a character is that of an ASCII character exactly if the characters are the same. -/
lemma eq_toUInt8_iff {c d : Char} {b : UInt8} (h : b ∈ String.utf8EncodeChar c)
    (hd : d.toNat < 128) : b = d.toUInt8 ↔ c = d := by
  rw [← UInt8.toNat_inj, ← Char.toNat_inj, toNat_toUInt8 hd]
  rcases mem_utf8EncodeChar h with ⟨-, hsame⟩ | ⟨hc, hb⟩ <;> omega

lemma toUInt8_inj {c d : Char} (hc : c.toNat < 128) (hd : d.toNat < 128) :
    c.toUInt8 = d.toUInt8 ↔ c = d :=
  eq_toUInt8_iff (by simp [utf8EncodeChar_ascii hc]) hd

/-- The first byte of a text is that of its first character. -/
lemma head?_utf8 {d : Char} (hd : d.toNat < 128) (text : List Char) :
    (utf8 text).head? = some d.toUInt8 ↔ text.head? = some d := by
  cases text with
  | nil => simp [utf8]
  | cons c text =>
      obtain ⟨b, bytes, hbytes⟩ := exists_utf8EncodeChar c
      have hmem : b ∈ String.utf8EncodeChar c := hbytes ▸ List.mem_cons_self
      rw [utf8_cons, hbytes]
      simpa using eq_toUInt8_iff hmem hd

/-! ## Lines and blocks -/

lemma lineRest_utf8 (text : List Char) : lineRest (utf8 text) = utf8 (afterLine text) := by
  induction text with
  | nil => rfl
  | cons c text ih =>
      rw [afterLine]
      split_ifs with hend
      · rw [hend, utf8_cons_ascii (by decide), lineRest, if_pos rfl]
      · rw [utf8_cons, lineRest_append, ih]
        exact fun b hb hnewline => hend ((eq_toUInt8_iff hb (by decide)).mp hnewline)

lemma blockRest_utf8_cons {c : Char} (hc : c ≠ '*') (text : List Char) :
    blockRest (utf8 (c :: text)) = blockRest (utf8 text) := by
  rw [utf8_cons, blockRest_append]
  exact fun b hb hstar => hc ((eq_toUInt8_iff hb (by decide)).mp hstar)

lemma blockRest_utf8 (text : List Char) : blockRest (utf8 text) = utf8 (afterBlock text) := by
  fun_induction afterBlock text with
  | case1 => rfl
  | case2 c =>
      by_cases hc : c = '*'
      · rw [hc, utf8_cons_ascii (by decide)]
        rfl
      · rw [blockRest_utf8_cons hc]
        rfl
  | case3 c d text hend =>
      obtain ⟨rfl, rfl⟩ := hend
      rw [utf8_cons_ascii (by decide), utf8_cons_ascii (by decide), blockRest, if_pos ⟨rfl, rfl⟩]
  | case4 c d text hend ih =>
      by_cases hc : c = '*'
      · subst hc
        rw [utf8_cons_ascii (by decide), blockRest_star, ih]
        rw [Ne, head?_utf8 (by decide)]
        exact fun hslash => hend ⟨rfl, by simpa using hslash⟩
      · rw [blockRest_utf8_cons hc, ih]

/-! ## Quoted pieces -/

lemma toNat_lt_of_isQuote {quote : Char} (h : isQuote quote = true) : quote.toNat < 128 := by
  simp only [isQuote, Bool.or_eq_true, beq_iff_eq] at h
  rcases h with (rfl | rfl) | rfl <;> decide

/-- Behind its first byte a character has no ASCII bytes. -/
lemma high_of_utf8EncodeChar_eq_cons {c : Char} {first : UInt8} {bytes : List UInt8}
    (h : String.utf8EncodeChar c = first :: bytes) : ∀ b ∈ bytes, 128 ≤ b.toNat := by
  intro b hb
  rcases Nat.lt_or_ge c.toNat 128 with hc | hc
  · rw [utf8EncodeChar_ascii hc] at h
    obtain ⟨-, rfl⟩ := List.cons.inj h
    cases hb
  · rcases mem_utf8EncodeChar (h ▸ List.mem_cons_of_mem first hb) with ⟨hlow, -⟩ | ⟨-, hhigh⟩
    · omega
    · exact hhigh

lemma ne_toUInt8_of_high {b : UInt8} {d : Char} (hb : 128 ≤ b.toNat) (hd : d.toNat < 128) :
    b ≠ d.toUInt8 := by
  rintro rfl
  rw [toNat_toUInt8 hd] at hb
  omega

lemma toUInt8_eq_backtick_iff {quote : Char} (hquote : isQuote quote = true) :
    quote.toUInt8 = backtick.toUInt8 ↔ quote = backtick :=
  toUInt8_inj (toNat_lt_of_isQuote hquote) (by decide)

/-- A character that is a part of the piece is one with all its bytes. -/
lemma insideRest_utf8_cons {quote c : Char} (hquote : isQuote quote = true) (hc : c ≠ quote)
    (hescape : c = '\\' → quote = backtick) (text : List Char) :
    insideRest quote.toUInt8 (utf8 (c :: text)) = insideRest quote.toUInt8 (utf8 text) := by
  rw [utf8_cons, insideRest_append]
  intro b hb
  rw [Ne, eq_toUInt8_iff hb (toNat_lt_of_isQuote hquote), eq_toUInt8_iff hb (by decide),
    toUInt8_eq_backtick_iff hquote]
  exact ⟨hc, hescape⟩

lemma insideRest_utf8 {quote : Char} (hquote : isQuote quote = true) (text : List Char) :
    insideRest quote.toUInt8 (utf8 text) = utf8 (afterQuoted quote text) := by
  have hascii := toNat_lt_of_isQuote hquote
  have hmark := toUInt8_eq_backtick_iff hquote
  fun_induction afterQuoted quote text with
  | case1 => rfl
  | case2 c =>
      rcases Nat.lt_or_ge c.toNat 128 with hc | hc
      · rw [utf8_cons_ascii hc]
        rfl
      · have hother : c ≠ quote := by
          rintro rfl
          omega
        have hplain : c = '\\' → quote = backtick := by
          rintro rfl
          exact absurd hc (by decide)
        rw [insideRest_utf8_cons hquote hother hplain]
        rfl
  | case3 c d text hescape ih =>
      -- The jump is over the first byte of `d`; its other bytes follow one by one.
      obtain ⟨rfl, hother⟩ := hescape
      obtain ⟨first, bytes, hbytes⟩ := exists_utf8EncodeChar d
      rw [utf8_cons_ascii (by decide), utf8_cons, hbytes, List.cons_append, insideRest,
        if_pos ⟨rfl, fun hsame => hother (hmark.mp hsame)⟩, insideRest_append, ih]
      intro b hb
      have hhigh := high_of_utf8EncodeChar_eq_cons hbytes b hb
      exact ⟨ne_toUInt8_of_high hhigh hascii,
        fun hsame => absurd hsame (ne_toUInt8_of_high hhigh (by decide))⟩
  | case4 text hescape ih =>
      rw [utf8_cons_ascii hascii, utf8_cons_ascii hascii, insideRest, if_neg ?_, if_pos rfl,
        if_pos rfl, ih]
      rw [toUInt8_inj hascii (by decide), Ne, hmark]
      exact hescape
  | case5 d text hd hescape =>
      obtain ⟨first, bytes, hbytes⟩ := exists_utf8EncodeChar d
      have hfirst : first ≠ quote.toUInt8 := by
        rw [Ne, eq_toUInt8_iff (hbytes ▸ List.mem_cons_self) hascii]
        exact hd
      rw [utf8_cons_ascii hascii, utf8_cons, hbytes, List.cons_append, insideRest, if_neg ?_,
        if_pos rfl, if_neg hfirst]
      rw [toUInt8_inj hascii (by decide), Ne, hmark]
      exact hescape
  | case6 c d text hescape hc ih =>
      have hplain : c = '\\' → quote = backtick := fun hsame => by simpa [hsame] using hescape
      rw [insideRest_utf8_cons hquote hc hplain, ih]

/-! ## Pieces -/

/-- Whether there is a quoted piece, and what is left behind it, is the same for the bytes of a text
as for its characters. -/
lemma quotedRest?_utf8 (text : List Char) :
    quotedRest? (utf8 text) = (afterQuote? text).map utf8 := by
  cases text with
  | nil => rfl
  | cons c text =>
      obtain ⟨b, bytes, hbytes⟩ := exists_utf8EncodeChar c
      have hopens : isQuoteByte b = isQuote c :=
        apply_ofUInt8_of_mem (fun _ => toNat_lt_of_isQuote) (hbytes ▸ List.mem_cons_self)
      by_cases hquote : isQuote c = true
      · have hc := utf8EncodeChar_ascii (toNat_lt_of_isQuote hquote)
        obtain ⟨rfl, rfl⟩ := List.cons.inj (hbytes.symm.trans hc)
        rw [utf8_cons, hc, afterQuote?, if_pos hquote, List.singleton_append, quotedRest?,
          if_pos (hopens.trans hquote), insideRest_utf8 hquote, Option.map_some]
      · rw [utf8_cons, hbytes, List.cons_append, afterQuote?, if_neg hquote, quotedRest?,
          if_neg (by rwa [hopens]), Option.map_none]

lemma toNat_lt_of_isAsciiBlank {c : Char} (h : Text.isAsciiBlank c = true) : c.toNat < 128 := by
  simp only [Text.isAsciiBlank, Bool.or_eq_true, beq_iff_eq] at h
  rcases h with (((rfl | rfl) | rfl) | rfl) | rfl <;> decide

lemma isBlankByte_of_mem {c : Char} {b : UInt8} (h : b ∈ String.utf8EncodeChar c) :
    isBlankByte b = Text.isAsciiBlank c :=
  apply_ofUInt8_of_mem (fun _ => toNat_lt_of_isAsciiBlank) h

lemma all_isBlankByte_utf8 (c : Char) (text : List Char) :
    (utf8 (c :: text)).head?.all isBlankByte = Text.isAsciiBlank c := by
  obtain ⟨b, bytes, hbytes⟩ := exists_utf8EncodeChar c
  rw [utf8_cons, hbytes]
  exact isBlankByte_of_mem (hbytes ▸ List.mem_cons_self)

/-- Whether there is a comment, and what is left behind it, is the same for the bytes of a text as
for its characters. -/
lemma commentRest?_utf8 (text : List Char) :
    commentRest? (utf8 text) = (afterComment? text).map utf8 := by
  fun_cases afterComment? text with
  | case1 text =>
      rw [utf8_cons_ascii (by decide), commentRest?, if_pos (by rfl), lineRest,
        if_neg (by decide), lineRest_utf8, Option.map_some]
  | case2 => rfl
  | case3 c text hblank =>
      rw [utf8_cons_ascii (by decide), utf8_cons_ascii (by decide), commentRest?_minus,
        all_isBlankByte_utf8, if_pos hblank, lineRest_utf8, Option.map_some]
  | case4 c text hblank =>
      rw [utf8_cons_ascii (by decide), utf8_cons_ascii (by decide), commentRest?_minus,
        all_isBlankByte_utf8, if_neg hblank, Option.map_none]
  | case5 text =>
      rw [utf8_cons_ascii (by decide), utf8_cons_ascii (by decide), commentRest?_block,
        blockRest_utf8, Option.map_some]
  | case6 text hhash hend hminus hslash =>
      cases text with
      | nil => rfl
      | cons c text =>
          obtain ⟨b, bytes, hbytes⟩ := exists_utf8EncodeChar c
          have hmem : b ∈ String.utf8EncodeChar c := hbytes ▸ List.mem_cons_self
          -- Behind an ASCII character stands the first byte of the next character.
          have hbehind {d e : Char} (hd : d.toNat < 128) (he : e.toNat < 128)
              (hsame : b = d.toUInt8)
              (hhead : (bytes ++ utf8 text).head? = some e.toUInt8) :
              c = d ∧ text.head? = some e := by
            obtain rfl := (eq_toUInt8_iff hmem hd).mp hsame
            obtain ⟨-, rfl⟩ := List.cons.inj (hbytes.symm.trans (utf8EncodeChar_ascii hd))
            exact ⟨rfl, (head?_utf8 he text).mp hhead⟩
          rw [utf8_cons, hbytes, List.cons_append, commentRest?_eq_none, Option.map_none]
          · rw [Ne, eq_toUInt8_iff hmem (by decide)]
            rintro rfl
            exact hhash text rfl
          · intro hsame hhead
            obtain ⟨rfl, hnext⟩ := hbehind (by decide) (by decide) hsame hhead
            obtain ⟨more, rfl⟩ := List.head?_eq_some_iff.mp hnext
            cases more with
            | nil => exact hend rfl
            | cons d more => exact hminus d more rfl
          · intro hsame hhead
            obtain ⟨rfl, hnext⟩ := hbehind (by decide) (by decide) hsame hhead
            obtain ⟨more, rfl⟩ := List.head?_eq_some_iff.mp hnext
            exact hslash more rfl

/-! ### Bytes that are no ASCII bytes -/

lemma commentRest?_of_high {b : UInt8} (hb : 128 ≤ b.toNat) (bytes : List UInt8) :
    commentRest? (b :: bytes) = none :=
  commentRest?_eq_none (ne_toUInt8_of_high hb (by decide))
    (fun hsame => absurd hsame (ne_toUInt8_of_high hb (by decide)))
    (fun hsame => absurd hsame (ne_toUInt8_of_high hb (by decide)))

lemma quotedRest?_of_high {b : UInt8} (hb : 128 ≤ b.toNat) (bytes : List UInt8) :
    quotedRest? (b :: bytes) = none := by
  have hquote : isQuoteByte b = false := apply_eq_false (fun _ => toNat_lt_of_isQuote) hb
  rw [quotedRest?, hquote, if_neg Bool.false_ne_true]

/-! ## The walk -/

/-- One piece after the other: what it says and what it leaves to the others. -/
lemma goesOn_cons (ended : Bool) (piece : Lexeme) (pieces : List Lexeme) :
    goesOn ended (piece :: pieces) =
      (ended && !piece.isSilent || goesOn (ended || piece == .plain ';') pieces) := by
  rw [goesOn]
  split_ifs with hsaid <;> simp [hsaid]

section Walk

variable {bytes : Array UInt8} {i : Nat} (ended : Bool)

/-- Bytes that are no ASCII bytes are met one by one. -/
lemma severalFrom_high {high more : List UInt8} (hhigh : ∀ b ∈ high, 128 ≤ b.toNat)
    (hdrop : bytes.toList.drop i = high ++ more) :
    ∃ next, bytes.toList.drop next = more ∧
      severalFrom bytes ended i =
        (ended && !high.isEmpty || severalFrom bytes ended next) := by
  induction high generalizing i with
  | nil => exact ⟨i, hdrop, by simp⟩
  | cons b high ih =>
      obtain ⟨hb, hrest⟩ := List.forall_mem_cons.mp hhigh
      have hblank : isBlankByte b = false :=
        apply_eq_false (fun _ => toNat_lt_of_isAsciiBlank) hb
      have hend : (b == ';'.toUInt8) = false :=
        beq_eq_false_iff_ne.mpr (ne_toUInt8_of_high hb (by decide))
      obtain ⟨hnext, hstep⟩ := severalFrom_other ended hdrop
        (commentRest?_of_high hb _) (quotedRest?_of_high hb _)
      obtain ⟨next, hmore, hothers⟩ := ih hrest hnext
      refine ⟨next, hmore, ?_⟩
      rw [hstep, hblank, hend, Bool.or_false, hothers]
      cases ended <;> simp

/-- A character that begins neither a comment nor a quoted piece counts by itself. -/
lemma severalFrom_character {c : Char} {text : List Char}
    (hdrop : bytes.toList.drop i = utf8 (c :: text)) (hcomment : afterComment? (c :: text) = none)
    (hquote : afterQuote? (c :: text) = none) :
    ∃ next, bytes.toList.drop next = utf8 text ∧
      severalFrom bytes ended i =
        (ended && !Text.isAsciiBlank c || severalFrom bytes (ended || c == ';') next) := by
  rcases Nat.lt_or_ge c.toNat 128 with hc | hc
  · have hmem : c.toUInt8 ∈ String.utf8EncodeChar c := by simp [utf8EncodeChar_ascii hc]
    have hend : (c.toUInt8 == ';'.toUInt8) = (c == ';') := by
      rw [Bool.eq_iff_iff, beq_iff_eq, beq_iff_eq, eq_toUInt8_iff hmem (by decide)]
    have hnocomment := commentRest?_utf8 (c :: text)
    have hnoquote := quotedRest?_utf8 (c :: text)
    rw [hcomment, utf8_cons_ascii hc] at hnocomment
    rw [hquote, utf8_cons_ascii hc] at hnoquote
    rw [utf8_cons_ascii hc] at hdrop
    obtain ⟨hnext, hstep⟩ := severalFrom_other ended hdrop hnocomment hnoquote
    exact ⟨i + 1, hnext, by rw [hstep, isBlankByte_of_mem hmem, hend]⟩
  · obtain ⟨first, high, hbytes⟩ := exists_utf8EncodeChar c
    have hhigh : ∀ b ∈ String.utf8EncodeChar c, 128 ≤ b.toNat := fun b hb =>
      (mem_utf8EncodeChar hb).elim (fun hlow => absurd hlow.1 (Nat.not_lt.mpr hc)) And.right
    have hblank := apply_eq_false (fun _ => toNat_lt_of_isAsciiBlank) hc
    have hend : (c == ';') = false := by
      rw [beq_eq_false_iff_ne]
      rintro rfl
      exact absurd hc (by decide)
    rw [utf8_cons] at hdrop
    obtain ⟨next, hnext, hstep⟩ := severalFrom_high ended hhigh hdrop
    exact ⟨next, hnext, by rw [hstep, hblank, hend, Bool.or_false, hbytes]; rfl⟩

/-- Over the bytes of a text the walk goes by the pieces of the text. -/
lemma severalFrom_utf8 {text : List Char} (hdrop : bytes.toList.drop i = utf8 text) :
    severalFrom bytes ended i = goesOn ended (lexemes text) := by
  fun_induction lexemes text generalizing i ended with
  | case1 => rw [severalFrom_nil _ hdrop, goesOn]
  | case2 c text rest hcomment ih =>
      have hrest := commentRest?_utf8 (c :: text)
      rw [hcomment, ← hdrop] at hrest
      obtain ⟨next, hnext, hstep⟩ := severalFrom_comment ended hrest
      have hend : (Lexeme.comment == .plain ';') = false := rfl
      rw [hstep, ih _ hnext, goesOn_cons, hend]
      simp [Lexeme.isSilent]
  | case3 c text hcomment rest hquote ih =>
      have hnocomment := commentRest?_utf8 (c :: text)
      have hrest := quotedRest?_utf8 (c :: text)
      rw [hcomment, ← hdrop] at hnocomment
      rw [hquote, ← hdrop] at hrest
      obtain ⟨next, hnext, hstep⟩ := severalFrom_quoted ended hnocomment hrest
      have hend : (Lexeme.quoted == .plain ';') = false := rfl
      rw [hstep, ih _ hnext, goesOn_cons, hend]
      simp [Lexeme.isSilent]
  | case4 c text hcomment hquote ih =>
      obtain ⟨next, hnext, hstep⟩ :=
        severalFrom_character ended hdrop hcomment hquote
      have hend : (Lexeme.plain c == .plain ';') = (c == ';') := by
        rw [Bool.eq_iff_iff, beq_iff_eq, beq_iff_eq, Lexeme.plain.injEq]
      rw [hstep, ih _ hnext, goesOn_cons, hend, Lexeme.isSilent]

end Walk

/-- **The walk over bytes says what the pieces of the text say.** -/
theorem holdsSeveral_eq (sql : String) : holdsSeveral sql = goesOn false (lexemes sql.toList) :=
  severalFrom_utf8 false (toList_bytesOf sql)

end SqlAccess.Sql
