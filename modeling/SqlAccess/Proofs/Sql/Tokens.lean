import SqlAccess.Proofs.Sql.Scan

/-!
# Statements cut into tokens

What the scan for a second statement is meant to find is said here without a scan.  A statement is
cut from the left into comments, quoted pieces and single other bytes; it holds a second statement
if a semicolon among the tokens is followed, anywhere later, by one that is neither a comment nor a
blank.

* `IsComment`, `IsQuoted` — the comments and quoted pieces, by how they begin and end.  Whether a
  piece ends where it does may depend on what follows it, so both are told of a piece and the rest.
* `IsFirst` — the first token of some bytes; `Cut` — all tokens of them.
* **`holdsSeveral_iff_cut`** — there is one way to cut a statement, and the scan finds a second
  statement exactly if the tokens show one.

A comment or a quoted piece that is not ended takes all that is left.  So every statement can be
cut, however broken it is.
-/

namespace SqlAccess.Sql

/-! ## Comments and quoted pieces -/

/-- What begins with a comment that takes the rest of its line. -/
inductive BeginsLine : List UInt8 → Prop where
  | hash (bytes : List UInt8) : BeginsLine ('#'.toUInt8 :: bytes)
  | minusEnd : BeginsLine ['-'.toUInt8, '-'.toUInt8]
  | minusBlank {b : UInt8} (hb : isBlankByte b = true) (bytes : List UInt8) :
      BeginsLine ('-'.toUInt8 :: '-'.toUInt8 :: b :: bytes)

/-- The mark that ends a block. -/
def blockMark : List UInt8 := ['*'.toUInt8, '/'.toUInt8]

/-- `IsComment piece rest`: where `piece` stands and `rest` follows, `piece` is a comment. -/
inductive IsComment : List UInt8 → List UInt8 → Prop where
  | line {body rest : List UInt8} (hbegins : BeginsLine (body ++ '\n'.toUInt8 :: rest))
      (hbody : '\n'.toUInt8 ∉ body) : IsComment (body ++ ['\n'.toUInt8]) rest
  | lastLine {body : List UInt8} (hbegins : BeginsLine body) (hbody : '\n'.toUInt8 ∉ body) :
      IsComment body []
  /-- The star that begins the comment is no part of the mark that ends it. -/
  | block {body : List UInt8} (hbody : ¬blockMark <:+: body ++ ['*'.toUInt8])
      (rest : List UInt8) : IsComment ('/'.toUInt8 :: '*'.toUInt8 :: body ++ blockMark) rest
  | lastBlock {body : List UInt8} (hbody : ¬blockMark <:+: body) :
      IsComment ('/'.toUInt8 :: '*'.toUInt8 :: body) []

/-- What may stand between two marks. -/
inductive IsInside (quote : UInt8) : List UInt8 → Prop where
  | nil : IsInside quote []
  | escaped (hquote : quote ≠ backtick.toUInt8) (b : UInt8) {bytes : List UInt8}
      (h : IsInside quote bytes) : IsInside quote ('\\'.toUInt8 :: b :: bytes)
  | doubled {bytes : List UInt8} (h : IsInside quote bytes) :
      IsInside quote (quote :: quote :: bytes)
  | plain {b : UInt8} (hb : b ≠ quote) (hescape : b = '\\'.toUInt8 → quote = backtick.toUInt8)
      {bytes : List UInt8} (h : IsInside quote bytes) : IsInside quote (b :: bytes)

/-- What ends a quoted piece where `rest` follows: its mark, or the end of all bytes. -/
inductive IsEnding (quote : UInt8) : List UInt8 → List UInt8 → Prop where
  /-- A mark that follows would double the last one. -/
  | mark {rest : List UInt8} (hrest : rest.head? ≠ some quote) : IsEnding quote [quote] rest
  | nothing : IsEnding quote [] []
  /-- A last backslash has nothing to escape. -/
  | backslash (hquote : quote ≠ backtick.toUInt8) : IsEnding quote ['\\'.toUInt8] []

/-- `IsQuoted piece rest`: where `piece` stands and `rest` follows, `piece` is a quoted piece. -/
inductive IsQuoted : List UInt8 → List UInt8 → Prop where
  | intro {quote : UInt8} {inside ending rest : List UInt8} (hquote : isQuoteByte quote = true)
      (hinside : IsInside quote inside) (hending : IsEnding quote ending rest) :
      IsQuoted (quote :: inside ++ ending) rest

/-! ## Tokens -/

/-- One token of a statement, with its bytes. -/
inductive Token where
  | comment (piece : List UInt8)
  | quoted (piece : List UInt8)
  | other (b : UInt8)
deriving DecidableEq, Repr

/-- The bytes of a token. -/
def Token.bytes : Token → List UInt8
  | .comment piece => piece
  | .quoted piece => piece
  | .other b => [b]

/-- Whether a token says nothing: a comment or a blank. -/
def Token.isSilent : Token → Bool
  | .comment _ => true
  | .quoted _ => false
  | .other b => isBlankByte b

/-- The first token of some bytes, and what is left behind it. -/
inductive IsFirst : List UInt8 → Token → List UInt8 → Prop where
  | comment {piece rest : List UInt8} (h : IsComment piece rest) :
      IsFirst (piece ++ rest) (.comment piece) rest
  | quoted {piece rest : List UInt8} (h : IsQuoted piece rest) :
      IsFirst (piece ++ rest) (.quoted piece) rest
  | other {b : UInt8} {rest : List UInt8}
      (hcomment : ∀ piece more, b :: rest = piece ++ more → ¬IsComment piece more)
      (hquote : isQuoteByte b = false) : IsFirst (b :: rest) (.other b) rest

/-- The tokens of some bytes, from the left. -/
inductive Cut : List UInt8 → List Token → Prop where
  | nil : Cut [] []
  | cons {bytes rest : List UInt8} {token : Token} {tokens : List Token}
      (hfirst : IsFirst bytes token rest) (hrest : Cut rest tokens) : Cut bytes (token :: tokens)

/-- Whether a semicolon is followed, anywhere later, by a token that says something. -/
def HoldsSecond (tokens : List Token) : Prop :=
  ∃ before behind, tokens = before ++ .other ';'.toUInt8 :: behind ∧
    ∃ token ∈ behind, token.isSilent = false

/-! ## Comments are what the walk skips -/

lemma beginsLine_iff (bytes : List UInt8) : beginsLine bytes = true ↔ BeginsLine bytes := by
  constructor
  · intro h
    simp only [beginsLine, Bool.or_eq_true, Bool.and_eq_true, beq_iff_eq] at h
    rcases h with hhash | ⟨⟨hfirst, hsecond⟩, hblank⟩
    · cases bytes with
      | nil => cases hhash
      | cons b bytes =>
          obtain rfl : b = '#'.toUInt8 := by simpa using hhash
          exact .hash bytes
    · rcases bytes with _ | ⟨b, _ | ⟨d, bytes⟩⟩
      · cases hfirst
      · cases hsecond
      · obtain rfl : b = '-'.toUInt8 := by simpa using hfirst
        obtain rfl : d = '-'.toUInt8 := by simpa using hsecond
        cases bytes with
        | nil => exact .minusEnd
        | cons e bytes => exact .minusBlank hblank bytes
  · intro h
    cases h with
    | hash bytes => rfl
    | minusEnd => rfl
    | minusBlank hb bytes => exact hb

/-- A line ends with the first line feed, or with the bytes. -/
lemma lineRest_cases (bytes : List UInt8) :
    (∃ body, bytes = body ++ '\n'.toUInt8 :: lineRest bytes ∧ '\n'.toUInt8 ∉ body) ∨
      lineRest bytes = [] ∧ '\n'.toUInt8 ∉ bytes := by
  induction bytes with
  | nil => exact .inr ⟨rfl, List.not_mem_nil⟩
  | cons b bytes ih =>
      rw [lineRest]
      split_ifs with hb
      · exact .inl ⟨[], by rw [hb, List.nil_append], List.not_mem_nil⟩
      · rcases ih with ⟨body, hbytes, hbody⟩ | ⟨hend, hbytes⟩
        · refine .inl ⟨b :: body, by rw [List.cons_append, ← hbytes], ?_⟩
          exact List.not_mem_cons_of_ne_of_not_mem (Ne.symm hb) hbody
        · exact .inr ⟨hend, List.not_mem_cons_of_ne_of_not_mem (Ne.symm hb) hbytes⟩

lemma lineRest_of_not_mem {bytes : List UInt8} (h : '\n'.toUInt8 ∉ bytes) (more : List UInt8) :
    lineRest (bytes ++ more) = lineRest more :=
  lineRest_append fun _ hb hsame => h (hsame ▸ hb)

/-- The mark stands at the head of bytes, or further on. -/
lemma blockMark_infix_cons_cons (b d : UInt8) (bytes : List UInt8) :
    blockMark <:+: b :: d :: bytes ↔
      (b = '*'.toUInt8 ∧ d = '/'.toUInt8) ∨ blockMark <:+: d :: bytes := by
  rw [List.infix_cons_iff, blockMark, List.cons_prefix_cons, List.cons_prefix_cons]
  simp [eq_comm]

lemma not_blockMark_infix_singleton (b : UInt8) : ¬blockMark <:+: [b] := fun h =>
  Nat.not_succ_le_self 1 h.length_le

/-- A block ends with the first mark, or with the bytes. -/
lemma blockRest_cases (bytes : List UInt8) :
    (∃ body, bytes = body ++ blockMark ++ blockRest bytes ∧
        ¬blockMark <:+: body ++ ['*'.toUInt8]) ∨
      blockRest bytes = [] ∧ ¬blockMark <:+: bytes := by
  fun_induction blockRest bytes with
  | case1 => exact .inr ⟨rfl, by decide⟩
  | case2 b => exact .inr ⟨rfl, not_blockMark_infix_singleton b⟩
  | case3 b d bytes hend =>
      obtain ⟨rfl, rfl⟩ := hend
      exact .inl ⟨[], rfl, not_blockMark_infix_singleton _⟩
  | case4 b d bytes hend ih =>
      rcases ih with ⟨body, hbytes, hbody⟩ | ⟨hrest, hbytes⟩
      · obtain ⟨more, hmore⟩ : ∃ more, body ++ ['*'.toUInt8] = d :: more := by
          cases body with
          | nil => exact ⟨[], by rw [(List.cons.inj hbytes).1]; rfl⟩
          | cons e body => exact ⟨body ++ ['*'.toUInt8], by rw [(List.cons.inj hbytes).1]; rfl⟩
        refine .inl ⟨b :: body, congrArg (b :: ·) hbytes, ?_⟩
        rw [List.cons_append, hmore, blockMark_infix_cons_cons, ← hmore]
        exact not_or.mpr ⟨hend, hbody⟩
      · refine .inr ⟨hrest, ?_⟩
        rw [blockMark_infix_cons_cons]
        exact not_or.mpr ⟨hend, hbytes⟩

lemma blockRest_of_not_infix {body : List UInt8} (h : ¬blockMark <:+: body ++ ['*'.toUInt8])
    (rest : List UInt8) : blockRest (body ++ blockMark ++ rest) = rest := by
  induction body with
  | nil => rfl
  | cons b body ih =>
      obtain ⟨d, more, hmore⟩ := List.exists_cons_of_ne_nil (l := body ++ ['*'.toUInt8]) (by simp)
      rw [List.cons_append, hmore, blockMark_infix_cons_cons, ← hmore, not_or] at h
      have hbytes : body ++ blockMark ++ rest = d :: (more ++ '/'.toUInt8 :: rest) := by
        rw [← List.cons_append, ← hmore, blockMark]
        simp
      rw [List.cons_append, List.cons_append, hbytes, blockRest, if_neg h.1, ← hbytes, ih h.2]

lemma blockRest_eq_nil {body : List UInt8} (h : ¬blockMark <:+: body) :
    blockRest body = [] := by
  rcases blockRest_cases body with ⟨before, hbody, -⟩ | ⟨hend, -⟩
  · exact absurd ⟨before, _, hbody.symm⟩ h
  · exact hend

lemma exists_of_beginsBlock {bytes : List UInt8} (h : beginsBlock bytes = true) :
    ∃ more, bytes = '/'.toUInt8 :: '*'.toUInt8 :: more := by
  simp only [beginsBlock, Bool.and_eq_true, beq_iff_eq] at h
  obtain ⟨hfirst, hsecond⟩ := h
  rcases bytes with _ | ⟨b, _ | ⟨d, more⟩⟩
  · cases hfirst
  · cases hsecond
  · obtain rfl : b = '/'.toUInt8 := by simpa using hfirst
    obtain rfl : d = '*'.toUInt8 := by simpa using hsecond
    exact ⟨more, rfl⟩

/-- What the walk leaves behind a comment is what follows it. -/
lemma IsComment.commentRest? {piece rest : List UInt8} (h : IsComment piece rest) :
    commentRest? (piece ++ rest) = some rest := by
  cases h with
  | @line body _ hbegins hbody =>
      rw [List.append_assoc, List.singleton_append, Sql.commentRest?,
        if_pos ((beginsLine_iff _).mpr hbegins), lineRest_of_not_mem hbody, lineRest, if_pos rfl]
  | lastLine hbegins hbody =>
      rw [Sql.commentRest?, List.append_nil, if_pos ((beginsLine_iff _).mpr hbegins)]
      have hend := lineRest_of_not_mem hbody []
      rw [List.append_nil] at hend
      rw [hend, lineRest]
  | block hbody rest =>
      have hrest := blockRest_of_not_infix hbody rest
      simpa only [List.cons_append, commentRest?_block] using congrArg some hrest
  | lastBlock hbody => rw [List.append_nil, commentRest?_block, blockRest_eq_nil hbody]

/-- Where the walk finds a comment, there is one. -/
lemma exists_isComment {bytes rest : List UInt8} (h : commentRest? bytes = some rest) :
    ∃ piece, bytes = piece ++ rest ∧ IsComment piece rest := by
  unfold commentRest? at h
  split_ifs at h with hline hblock
  · obtain rfl := Option.some.inj h
    rw [beginsLine_iff] at hline
    rcases lineRest_cases bytes with ⟨body, hbytes, hbody⟩ | ⟨hend, hbytes⟩
    · refine ⟨body ++ ['\n'.toUInt8], ?_, .line (hbytes ▸ hline) hbody⟩
      rwa [List.append_assoc, List.singleton_append]
    · rw [hend]
      exact ⟨bytes, (List.append_nil bytes).symm, .lastLine hline hbytes⟩
  · obtain ⟨more, rfl⟩ := exists_of_beginsBlock hblock
    obtain rfl := Option.some.inj h
    rcases blockRest_cases more with ⟨body, hmore, hbody⟩ | ⟨hend, hmore⟩
    · refine ⟨'/'.toUInt8 :: '*'.toUInt8 :: body ++ blockMark, ?_, .block hbody _⟩
      exact congrArg (fun bytes => '/'.toUInt8 :: '*'.toUInt8 :: bytes) hmore
    · refine ⟨'/'.toUInt8 :: '*'.toUInt8 :: more, ?_, ?_⟩
      · rw [List.drop_succ_cons, List.drop_succ_cons, List.drop_zero, hend, List.append_nil]
      · rw [List.drop_succ_cons, List.drop_succ_cons, List.drop_zero, hend]
        exact .lastBlock hmore

/-! ## Quoted pieces are what the walk skips -/

/-- What may stand between two marks is a part of the piece, whatever follows. -/
lemma IsInside.insideRest_append {quote : UInt8} (hquote : quote ≠ '\\'.toUInt8)
    {inside : List UInt8} (h : IsInside quote inside) (bytes : List UInt8) :
    insideRest quote (inside ++ bytes) = insideRest quote bytes := by
  induction h with
  | nil => rfl
  | escaped hother b _ ih =>
      rw [List.cons_append, List.cons_append, insideRest, if_pos ⟨rfl, hother⟩, ih]
  | doubled _ ih =>
      rw [List.cons_append, List.cons_append, insideRest, if_neg fun hboth => hquote hboth.1,
        if_pos rfl, if_pos rfl, ih]
  | plain hb hescape _ ih => rw [List.cons_append, insideRest_cons hb hescape, ih]

lemma IsEnding.insideRest {quote : UInt8} (hquote : quote ≠ '\\'.toUInt8)
    {ending rest : List UInt8} (h : IsEnding quote ending rest) :
    insideRest quote (ending ++ rest) = rest := by
  cases h with
  | mark hrest =>
      cases rest with
      | nil => rfl
      | cons d rest =>
          have hd : d ≠ quote := by simpa using hrest
          rw [List.singleton_append, Sql.insideRest, if_neg fun hboth => hquote hboth.1, if_pos rfl,
            if_neg hd]
  | nothing => rfl
  | backslash => rfl

/-- The walk goes to the end of the piece. -/
lemma exists_isInside (quote : UInt8) (bytes : List UInt8) :
    ∃ inside ending, IsInside quote inside ∧ IsEnding quote ending (insideRest quote bytes) ∧
      bytes = inside ++ ending ++ insideRest quote bytes := by
  fun_induction insideRest quote bytes with
  | case1 => exact ⟨[], [], .nil, .nothing, rfl⟩
  | case2 b =>
      by_cases hescape : b = '\\'.toUInt8 ∧ quote ≠ backtick.toUInt8
      · obtain ⟨rfl, hquote⟩ := hescape
        exact ⟨[], _, .nil, .backslash hquote, rfl⟩
      · by_cases hb : b = quote
        · subst hb
          exact ⟨[], _, .nil, .mark (by simp), rfl⟩
        · have hplain : b = '\\'.toUInt8 → quote = backtick.toUInt8 := fun hsame =>
            not_not.mp fun hquote => hescape ⟨hsame, hquote⟩
          exact ⟨[b], [], .plain hb hplain .nil, .nothing, rfl⟩
  | case3 b d bytes hescape ih =>
      obtain ⟨rfl, hquote⟩ := hescape
      obtain ⟨inside, ending, hinside, hending, hbytes⟩ := ih
      exact ⟨_, ending, .escaped hquote d hinside, hending,
        congrArg (fun bytes => '\\'.toUInt8 :: d :: bytes) hbytes⟩
  | case4 bytes hescape ih =>
      obtain ⟨inside, ending, hinside, hending, hbytes⟩ := ih
      exact ⟨_, ending, .doubled hinside, hending,
        congrArg (fun bytes => quote :: quote :: bytes) hbytes⟩
  | case5 d bytes hd hescape =>
      exact ⟨[], [quote], .nil, .mark (by simpa using hd), rfl⟩
  | case6 b d bytes hescape hb ih =>
      obtain ⟨inside, ending, hinside, hending, hbytes⟩ := ih
      have hplain : b = '\\'.toUInt8 → quote = backtick.toUInt8 := fun hsame =>
        not_not.mp fun hquote => hescape ⟨hsame, hquote⟩
      exact ⟨_, ending, .plain hb hplain hinside, hending, congrArg (b :: ·) hbytes⟩

lemma ne_backslash_of_isQuoteByte {quote : UInt8} (h : isQuoteByte quote = true) :
    quote ≠ '\\'.toUInt8 := by
  rintro rfl
  exact absurd h (by decide)

/-- What the walk leaves behind a quoted piece is what follows it. -/
lemma IsQuoted.quotedRest? {piece rest : List UInt8} (h : IsQuoted piece rest) :
    quotedRest? (piece ++ rest) = some rest := by
  obtain ⟨hquote, hinside, hending⟩ := h
  have hescape := ne_backslash_of_isQuoteByte hquote
  rw [List.cons_append, List.cons_append, Sql.quotedRest?, if_pos hquote, List.append_assoc,
    hinside.insideRest_append hescape, hending.insideRest hescape]

/-- Where the walk finds a quoted piece, there is one. -/
lemma exists_isQuoted {bytes rest : List UInt8} (h : quotedRest? bytes = some rest) :
    ∃ piece, bytes = piece ++ rest ∧ IsQuoted piece rest := by
  cases bytes with
  | nil => cases h
  | cons quote bytes =>
      rw [quotedRest?] at h
      split_ifs at h with hquote
      obtain rfl := Option.some.inj h
      obtain ⟨inside, ending, hinside, hending, hbytes⟩ := exists_isInside quote bytes
      exact ⟨_, congrArg (quote :: ·) hbytes, .intro hquote hinside hending⟩

/-! ## The first token -/

/-- A quoted piece begins with no comment. -/
lemma commentRest?_of_quotedRest? {bytes rest : List UInt8} (h : quotedRest? bytes = some rest) :
    commentRest? bytes = none := by
  cases bytes with
  | nil => cases h
  | cons quote bytes =>
      rw [quotedRest?] at h
      split_ifs at h with hquote
      have hne {d : Char} (hd : isQuoteByte d.toUInt8 = false) : quote ≠ d.toUInt8 := by
        rintro rfl
        simp [hd] at hquote
      exact commentRest?_eq_none (hne (by decide)) (fun hsame => absurd hsame (hne (by decide)))
        (fun hsame => absurd hsame (hne (by decide)))

/-- The first token is the comment or the quoted piece that the walk skips, or one byte. -/
lemma isFirst_iff {bytes rest : List UInt8} {token : Token} :
    IsFirst bytes token rest ↔
      (commentRest? bytes = some rest ∧ ∃ piece, bytes = piece ++ rest ∧ token = .comment piece) ∨
      (commentRest? bytes = none ∧ quotedRest? bytes = some rest ∧
        ∃ piece, bytes = piece ++ rest ∧ token = .quoted piece) ∨
      (commentRest? bytes = none ∧ quotedRest? bytes = none ∧
        ∃ b, bytes = b :: rest ∧ token = .other b) := by
  constructor
  · intro h
    cases h with
    | comment h => exact .inl ⟨h.commentRest?, _, rfl, rfl⟩
    | quoted h =>
        have hrest := h.quotedRest?
        exact .inr (.inl ⟨commentRest?_of_quotedRest? hrest, hrest, _, rfl, rfl⟩)
    | @other b _ hcomment hquote =>
        refine .inr (.inr ⟨?_, ?_, b, rfl, rfl⟩)
        · by_contra hsome
          obtain ⟨more, hmore⟩ := Option.ne_none_iff_exists'.mp hsome
          obtain ⟨piece, hbytes, hpiece⟩ := exists_isComment hmore
          exact hcomment piece more hbytes hpiece
        · rw [Sql.quotedRest?, hquote, if_neg Bool.false_ne_true]
  · rintro (⟨hcomment, piece, rfl, rfl⟩ | ⟨-, hquoted, piece, rfl, rfl⟩ |
      ⟨hcomment, hquoted, b, rfl, rfl⟩)
    · obtain ⟨same, hbytes, hpiece⟩ := exists_isComment hcomment
      obtain rfl := List.append_cancel_right hbytes
      exact .comment hpiece
    · obtain ⟨same, hbytes, hpiece⟩ := exists_isQuoted hquoted
      obtain rfl := List.append_cancel_right hbytes
      exact .quoted hpiece
    · refine .other (fun piece more hbytes hpiece => ?_) ?_
      · rw [hbytes, hpiece.commentRest?] at hcomment
        cases hcomment
      · rw [Sql.quotedRest?] at hquoted
        split_ifs at hquoted with hquote
        exact Bool.eq_false_iff.mpr hquote

lemma exists_isFirst {bytes : List UInt8} (h : bytes ≠ []) :
    ∃ token rest, IsFirst bytes token rest := by
  cases hcomment : commentRest? bytes with
  | some rest =>
      obtain ⟨piece, hbytes, -⟩ := exists_isComment hcomment
      exact ⟨_, rest, isFirst_iff.mpr (.inl ⟨hcomment, piece, hbytes, rfl⟩)⟩
  | none =>
      cases hquoted : quotedRest? bytes with
      | some rest =>
          obtain ⟨piece, hbytes, -⟩ := exists_isQuoted hquoted
          exact ⟨_, rest, isFirst_iff.mpr (.inr (.inl ⟨hcomment, hquoted, piece, hbytes, rfl⟩))⟩
      | none =>
          obtain ⟨b, rest, hbytes⟩ := List.exists_cons_of_ne_nil h
          exact ⟨_, rest, isFirst_iff.mpr (.inr (.inr ⟨hcomment, hquoted, b, hbytes, rfl⟩))⟩

lemma IsFirst.unique {bytes rest more : List UInt8} {token other : Token}
    (h : IsFirst bytes token rest) (hother : IsFirst bytes other more) :
    token = other ∧ rest = more := by
  rw [isFirst_iff] at h hother
  rcases h with ⟨hcomment, piece, hbytes, rfl⟩ | ⟨hcomment, hquoted, piece, hbytes, rfl⟩ |
    ⟨hcomment, hquoted, b, hbytes, rfl⟩
  · obtain ⟨hrest, same, hsame, rfl⟩ : commentRest? bytes = some more ∧
        ∃ piece, bytes = piece ++ more ∧ other = .comment piece := by simpa [hcomment] using hother
    obtain rfl := Option.some.inj (hcomment.symm.trans hrest)
    exact ⟨congrArg Token.comment (List.append_cancel_right (hbytes.symm.trans hsame)), rfl⟩
  · obtain ⟨hrest, same, hsame, rfl⟩ : quotedRest? bytes = some more ∧
        ∃ piece, bytes = piece ++ more ∧ other = .quoted piece := by
      simpa [hcomment, hquoted] using hother
    obtain rfl := Option.some.inj (hquoted.symm.trans hrest)
    exact ⟨congrArg Token.quoted (List.append_cancel_right (hbytes.symm.trans hsame)), rfl⟩
  · obtain ⟨d, hsame, rfl⟩ : ∃ b, bytes = b :: more ∧ other = .other b := by
      simpa [hcomment, hquoted] using hother
    obtain ⟨rfl, rfl⟩ := List.cons.inj (hbytes.symm.trans hsame)
    exact ⟨rfl, rfl⟩

lemma IsComment.ne_nil {piece rest : List UInt8} (h : IsComment piece rest) : piece ≠ [] := by
  cases h with
  | line => simp
  | lastLine hbegins => cases hbegins <;> simp
  | block => simp
  | lastBlock => simp

/-- A token has bytes. -/
lemma IsFirst.length_lt {bytes rest : List UInt8} {token : Token} (h : IsFirst bytes token rest) :
    rest.length < bytes.length := by
  cases h with
  | comment h =>
      rw [List.length_append]
      exact Nat.lt_add_of_pos_left (List.length_pos_iff.mpr h.ne_nil)
  | quoted h =>
      obtain ⟨-, -, -⟩ := h
      simp only [List.length_append, List.length_cons]
      omega
  | other => exact Nat.lt_succ_self _

/-! ## All tokens -/

/-- **Every text can be cut**, also one whose pieces are not ended. -/
theorem exists_cut (bytes : List UInt8) : ∃ tokens, Cut bytes tokens := by
  induction hlength : bytes.length using Nat.strong_induction_on generalizing bytes with
  | _ length ih =>
      subst hlength
      by_cases hbytes : bytes = []
      · exact ⟨[], hbytes ▸ .nil⟩
      · obtain ⟨token, rest, hfirst⟩ := exists_isFirst hbytes
        obtain ⟨tokens, hrest⟩ := ih rest.length hfirst.length_lt rest rfl
        exact ⟨token :: tokens, .cons hfirst hrest⟩

/-- Nothing is lost in cutting. -/
theorem Cut.flatMap_bytes {bytes : List UInt8} {tokens : List Token} (h : Cut bytes tokens) :
    tokens.flatMap Token.bytes = bytes := by
  induction h with
  | nil => rfl
  | cons hfirst _ ih =>
      rw [List.flatMap_cons, ih]
      cases hfirst <;> rfl

/-- **There is one way only** to cut a text. -/
theorem Cut.unique {bytes : List UInt8} {tokens others : List Token} (h : Cut bytes tokens)
    (hothers : Cut bytes others) : others = tokens := by
  induction h generalizing others with
  | nil =>
      cases hothers with
      | nil => rfl
      | cons hfirst _ => exact absurd hfirst.length_lt (Nat.not_lt_zero _)
  | cons hfirst _ ih =>
      cases hothers with
      | nil => exact absurd hfirst.length_lt (Nat.not_lt_zero _)
      | cons hother hrest =>
          obtain ⟨rfl, rfl⟩ := hfirst.unique hother
          rw [ih hrest]

/-! ## The walk goes by tokens -/

lemma holdsSecond_cons (token : Token) (tokens : List Token) :
    HoldsSecond (token :: tokens) ↔
      (token = .other ';'.toUInt8 ∧ ∃ behind ∈ tokens, behind.isSilent = false) ∨
        HoldsSecond tokens := by
  constructor
  · rintro ⟨before, behind, htokens, hsaid⟩
    cases before with
    | nil =>
        obtain ⟨rfl, rfl⟩ := List.cons.inj htokens
        exact .inl ⟨rfl, hsaid⟩
    | cons first before =>
        obtain ⟨rfl, rfl⟩ := List.cons.inj htokens
        exact .inr ⟨before, behind, rfl, hsaid⟩
  · rintro (⟨rfl, hsaid⟩ | ⟨before, behind, rfl, hsaid⟩)
    · exact ⟨[], tokens, rfl, hsaid⟩
    · exact ⟨token :: before, behind, rfl, hsaid⟩

section Walk

variable {bytes : Array UInt8}

/-- One token after the other: what it says and what it leaves to the others. -/
lemma severalFrom_first {i : Nat} {token : Token} {rest : List UInt8}
    (h : IsFirst (bytes.toList.drop i) token rest) (ended : Bool) :
    ∃ next, bytes.toList.drop next = rest ∧
      severalFrom bytes ended i =
        (ended && !token.isSilent ||
          severalFrom bytes (ended || token == .other ';'.toUInt8) next) := by
  rcases isFirst_iff.mp h with ⟨hcomment, piece, -, rfl⟩ | ⟨hcomment, hquoted, piece, -, rfl⟩ |
    ⟨hcomment, hquoted, b, hdrop, rfl⟩
  · obtain ⟨next, hnext, hstep⟩ := severalFrom_comment ended hcomment
    refine ⟨next, hnext, ?_⟩
    have hend : (Token.comment piece == .other ';'.toUInt8) = false := rfl
    rw [hstep, hend]
    simp [Token.isSilent]
  · obtain ⟨next, hnext, hstep⟩ := severalFrom_quoted ended hcomment hquoted
    refine ⟨next, hnext, ?_⟩
    have hend : (Token.quoted piece == .other ';'.toUInt8) = false := rfl
    rw [hstep, hend]
    simp [Token.isSilent]
  · rw [hdrop] at hcomment hquoted
    obtain ⟨hnext, hstep⟩ := severalFrom_other ended hdrop hcomment hquoted
    have hend : (Token.other b == .other ';'.toUInt8) = (b == ';'.toUInt8) := by
      rw [Bool.eq_iff_iff, beq_iff_eq, beq_iff_eq, Token.other.injEq]
    exact ⟨i + 1, hnext, by rw [hstep, hend, Token.isSilent]⟩

/-- From a place on the walk finds what the tokens from there on show.  Behind a semicolon one token
that says something is enough. -/
lemma severalFrom_iff {rest : List UInt8} {tokens : List Token} (hcut : Cut rest tokens) {i : Nat}
    (hdrop : bytes.toList.drop i = rest) (ended : Bool) :
    severalFrom bytes ended i = true ↔
      (ended = true ∧ ∃ token ∈ tokens, token.isSilent = false) ∨ HoldsSecond tokens := by
  induction hcut generalizing i ended with
  | nil =>
      rw [severalFrom_nil _ hdrop]
      simp [HoldsSecond]
  | cons hfirst _ ih =>
      obtain ⟨next, hnext, hstep⟩ := severalFrom_first (hdrop ▸ hfirst) ended
      rw [hstep, Bool.or_eq_true, ih hnext, holdsSecond_cons]
      simp only [Bool.and_eq_true, Bool.or_eq_true, Bool.not_eq_true', beq_iff_eq,
        List.exists_mem_cons_iff, or_and_right, and_or_left, or_assoc]

end Walk

/-- **A statement holds a second one exactly if its tokens show it.**  A statement can be cut into
tokens in one way, which leaves nothing out, and the scan answers `true` exactly if among them a
semicolon is followed, anywhere later, by a token that is neither a comment nor a blank. -/
theorem holdsSeveral_iff_cut (sql : String) :
    ∃ tokens, (∀ others, Cut (bytesOf sql).toList others ↔ others = tokens) ∧
      tokens.flatMap Token.bytes = (bytesOf sql).toList ∧
      (holdsSeveral sql = true ↔ HoldsSecond tokens) := by
  obtain ⟨tokens, hcut⟩ := exists_cut (bytesOf sql).toList
  have hunique : ∀ others, Cut (bytesOf sql).toList others ↔ others = tokens := fun others =>
    ⟨hcut.unique, fun hsame => hsame ▸ hcut⟩
  refine ⟨tokens, hunique, hcut.flatMap_bytes, ?_⟩
  have hwalk := severalFrom_iff hcut (List.drop_zero (l := (bytesOf sql).toList)) false
  simpa only [holdsSeveral, Bool.false_eq_true, false_and, false_or] using hwalk

/-- What stands in quotes and in comments ends no statement, and a comment may follow the end. -/
example : holdsSeveral "SELECT ';' -- it's;\n; /* DROP" = false := by decide +kernel

end SqlAccess.Sql
