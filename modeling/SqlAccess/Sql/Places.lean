import SqlAccess.Sql.Classify
import SqlAccess.Sql.Scan
import SqlAccess.Text.Slice

/-!
# The kind of a statement, place by place

`Classify` tells the kind of a statement from its characters.  Here the same is done with a
statement that is held as bytes: the walk knows places, which are numbers of bytes, and takes pieces
of the statement by cutting it at places.  A text cannot be cut inside of a character, so a walk
notes every place that it comes to (`Walk.places`), and has no result if it goes wrong
(`Walk.result`).

There are two ways to cut.  `Walk.cut` takes it for granted that the text can be cut, and the walk
has no result if it cannot; `Walk.tryCut` goes on with nothing then.

Comments and quoted pieces are those of `Scan`.
-/

namespace SqlAccess.Sql

/-! ## Walks -/

/-- A place in a text. -/
structure Place where
  text : String
  offset : String.Pos.Raw
deriving DecidableEq

/-- What comes of going through a text by places. -/
structure Walk (α : Type) where
  /-- The places that were come to, in order. -/
  places : List Place
  /-- What was found, unless the text was cut where it cannot be. -/
  result : Option α

namespace Walk

variable {α β : Type}

/-- Finds something at once. -/
def pure (a : α) : Walk α := ⟨[], some a⟩

/-- Goes on with what was found, and knows that it was found. -/
def goOn (walk : Walk α) (f : (a : α) → walk.result = some a → Walk β) : Walk β :=
  match found : walk.result with
  | none => ⟨walk.places, none⟩
  | some a => ⟨walk.places ++ (f a found).places, (f a found).result⟩

instance : Monad Walk where
  pure := pure
  bind walk f := walk.goOn fun a _ => f a

/-- Comes to a place. -/
def visit (text : List Char) (i : Nat) : Walk Nat :=
  ⟨[⟨String.ofList text, ⟨i⟩⟩], some i⟩

/-- The text behind a place, which is taken for granted to be a boundary. -/
def cut (text : List Char) (i : Nat) : Walk (List Char) :=
  ⟨[⟨String.ofList text, ⟨i⟩⟩], (Text.cutAt? i text).map fun (_, behind) => behind⟩

/-- The text behind a place, and nothing if the text cannot be cut there. -/
def tryCut (text : List Char) (i : Nat) : Walk (List Char) :=
  ⟨[⟨String.ofList text, ⟨i⟩⟩], some ((Text.cutAt? i text).elim [] fun (_, behind) => behind)⟩

/-- What is found in the end is found after something was found before. -/
theorem result_bind_eq_some {walk : Walk α} {f : α → Walk β} {b : β} :
    (walk >>= f).result = some b ↔ ∃ a, walk.result = some a ∧ (f a).result = some b := by
  show (walk.goOn fun a _ => f a).result = _ ↔ _
  unfold goOn
  split <;> simp [*]

end Walk

/-! ## The first word -/

/-- Whether a text begins with a keyword. -/
def keywordWalk (keyword : String) (text : List Char) : Walk Bool :=
  match Text.slice? 0 keyword.utf8ByteSize text with
  | none => pure false
  | some word =>
    if Text.equalsIgnoringCase (String.ofList word) keyword then do
      let rest ← Walk.cut text keyword.utf8ByteSize
      pure (rest.head?.all fun c => !(c.isAlphanum || c == '_'))
    else pure false

/-- The mark that ends the comment at the head of a text, if there is one in front of the first
word. -/
def leadMark? : List Char → Option (List Char)
  | '-' :: '-' :: _ => some ['\n']
  | '#' :: _ => some ['\n']
  | '/' :: '*' :: _ => some ['*', '/']
  | _ => none

/-- The place of a mark in a text, if it stands there. -/
def placeOf? (mark text : List Char) : Option Nat :=
  (Text.splitAtMark? mark text).map fun (before, _) => Text.byteCount before

/-- The text behind a mark, empty if the mark does not stand there. -/
def behindWalk (mark text : List Char) : Walk (List Char) :=
  match placeOf? mark text with
  | none => pure []
  | some i => Walk.cut text (i + Text.byteCount mark)

/-- What is left behind one comment or parenthesis in front of the first word, if there is one. -/
def leadWalk (text : List Char) : Walk (Option (List Char)) :=
  match leadMark? text with
  | some mark => do
    let rest ← behindWalk mark text
    pure (some rest)
  | none =>
    match text with
    | '(' :: rest => pure (some rest)
    | _ => pure none

/-- What is cut off takes a character. -/
theorem cutAt?_length {n : Nat} {text before rest : List Char} (hn : 0 < n)
    (h : Text.cutAt? n text = some (before, rest)) : rest.length < text.length := by
  fun_induction Text.cutAt? n text generalizing before with
  | case1 => omega
  | case2 => cases h
  | case3 n c text _ ih =>
    simp only [Option.map_eq_some_iff, Prod.mk.injEq] at h
    obtain ⟨⟨inFront, behind⟩, hcut, -, rfl⟩ := h
    rcases Nat.eq_zero_or_pos (n + 1 - c.utf8Size) with hzero | hpos
    · rw [hzero, Text.cutAt?] at hcut
      cases hcut
      exact Nat.lt_succ_self _
    · exact Nat.lt_succ_of_lt (ih hpos hcut)
  | case4 => cases h

/-- What is in front of the end of a mark takes a character. -/
theorem behindWalk_length {mark text rest : List Char} (hmark : 0 < Text.byteCount mark)
    (htext : text ≠ []) (h : (behindWalk mark text).result = some rest) :
    rest.length < text.length := by
  unfold behindWalk at h
  split at h
  · cases h
    exact List.length_pos_iff.mpr htext
  · obtain ⟨⟨before, _⟩, hcut, rfl⟩ := Option.map_eq_some_iff.mp h
    exact cutAt?_length (by omega) hcut

/-- A comment or a parenthesis takes at least one character. -/
theorem leadWalk_length {text rest : List Char}
    (h : (leadWalk text).result = some (some rest)) : rest.length < text.length := by
  unfold leadWalk at h
  split at h
  · rename_i mark hmark
    have hmarked : text ≠ [] ∧ 0 < Text.byteCount mark := by
      unfold leadMark? at hmark
      split at hmark <;> cases hmark <;> exact ⟨List.cons_ne_nil _ _, by decide⟩
    obtain ⟨behind, hbehind, hrest⟩ := Walk.result_bind_eq_some.mp h
    obtain rfl : behind = rest := Option.some.inj (Option.some.inj hrest)
    exact behindWalk_length hmarked.2 hmarked.1 hbehind
  · split at h
    · cases h
      exact Nat.lt_succ_self _
    · cases h

/-- The text from its first word on. -/
def firstWordWalk (text : List Char) : Walk (List Char) :=
  let start := Text.dropBlanks text
  (leadWalk start).goOn fun
    | some rest, _found => firstWordWalk rest
    | none, _ => pure start
termination_by text.length
decreasing_by
  exact Nat.lt_of_lt_of_le (leadWalk_length _found) (dropBlanks_length text)

/-! ## Where pieces end -/

/-- The place behind the ASCII blanks and comments at `i`. -/
def silenceEnd (bytes : Array UInt8) (i : Nat) : Nat :=
  if _inside : i < bytes.size then
    if isBlankByte bytes[i] then silenceEnd bytes (i + 1)
    else
      match _comment : commentEnd? bytes i with
      | some next => silenceEnd bytes next
      | none => i
  else i
termination_by bytes.size - i
decreasing_by
  · omega
  · have := lt_of_commentEnd? _inside _comment
    omega

/-- The place behind the comment or the quoted piece at `i`, if there is one. -/
def pieceEnd? (bytes : Array UInt8) (i : Nat) : Option Nat :=
  match commentEnd? bytes i with
  | some next => some next
  | none => quotedEnd? bytes i

/-- A comment or a quoted piece takes at least one byte. -/
theorem lt_of_pieceEnd? {bytes : Array UInt8} {i next : Nat} (hi : i < bytes.size)
    (h : pieceEnd? bytes i = some next) : i < next := by
  unfold pieceEnd? at h
  split at h
  · rename_i hcomment
    cases h
    exact lt_of_commentEnd? hi hcomment
  · exact lt_of_quotedEnd? hi h

/-- The place behind the parenthesis that closes the `depth`-th one open at `i`; parentheses in
comments and quoted pieces do not count. -/
def groupEndFrom (bytes : Array UInt8) (depth i : Nat) : Nat :=
  if _inside : i < bytes.size then
    match _piece : pieceEnd? bytes i with
    | some next => groupEndFrom bytes depth next
    | none =>
      if bytes[i] = '('.toUInt8 then groupEndFrom bytes (depth + 1) (i + 1)
      else if bytes[i] = ')'.toUInt8 then
        if depth - 1 = 0 then i + 1 else groupEndFrom bytes (depth - 1) (i + 1)
      else groupEndFrom bytes depth (i + 1)
  else bytes.size
termination_by bytes.size - i
decreasing_by
  · have := lt_of_pieceEnd? _inside _piece
    omega
  all_goals omega

/-- The place behind the group in parentheses at `i`. -/
def groupEnd (bytes : Array UInt8) (i : Nat) : Nat :=
  groupEndFrom bytes 0 i

/-- A byte of the name of a named query. -/
def isNameByte (b : UInt8) : Bool :=
  isNameChar (Char.ofUInt8 b)

/-- The place behind the name of a named query at `i`, if there is one. -/
def nameEnd? (bytes : Array UInt8) (i : Nat) : Option Nat :=
  match quotedEnd? bytes i with
  | some next => some next
  | none =>
    let name := (bytes.toList.drop (min i bytes.size)).takeWhile isNameByte
    if 0 < name.length then some (i + name.length) else none

/-! ## Named queries -/

/-- The place behind the ASCII blanks and comments at a place. -/
def silenceWalk (text : List Char) (i : Nat) : Walk Nat :=
  Walk.visit text (silenceEnd (bytesOf (String.ofList text)) i)

/-- The place behind the group in parentheses at a place, and behind the silence after it, if the
text has a parenthesis there. -/
def groupWalk? (text : List Char) (i : Nat) : Walk (Option Nat) :=
  if (bytesOf (String.ofList text))[i]? = some '('.toUInt8 then do
    let behind ← Walk.visit text (groupEnd (bytesOf (String.ofList text)) i)
    let next ← silenceWalk text behind
    pure (some next)
  else pure none

/-- The place behind one named query and the silence after it, if there is one at a place. -/
def namedQueryWalk (text : List Char) (i : Nat) : Walk (Option Nat) := do
  let start ← silenceWalk text i
  match nameEnd? (bytesOf (String.ofList text)) start with
  | none => pure none
  | some behind =>
    let named ← silenceWalk text (← Walk.visit text behind)
    let columns ← groupWalk? text named
    let listed := columns.getD named
    if ← keywordWalk "AS" (← Walk.tryCut text listed) then
      groupWalk? text (← silenceWalk text (listed + "AS".utf8ByteSize))
    else pure none

/-! ### The walk goes on -/

/-- Silence ends no earlier than it begins. -/
theorem le_silenceEnd (bytes : Array UInt8) (i : Nat) : i ≤ silenceEnd bytes i := by
  fun_induction silenceEnd bytes i with
  | case1 i _ _ ih => omega
  | case2 i hi _ next hcomment ih =>
    have := lt_of_commentEnd? hi hcomment
    omega
  | case3 => exact Nat.le_refl _
  | case4 => exact Nat.le_refl _

/-- A group ends behind every place in it. -/
theorem le_groupEnd {bytes : Array UInt8} {i : Nat} (hi : i < bytes.size) :
    i ≤ groupEnd bytes i := by
  have hmore : ∀ depth j, i ≤ j → i ≤ groupEndFrom bytes depth j := by
    intro depth j hj
    fun_induction groupEndFrom bytes depth j with
    | case1 depth j hlt next hpiece ih =>
      have := lt_of_pieceEnd? hlt hpiece
      exact ih (by omega)
    | case2 depth j hlt _ _ ih => exact ih (Nat.le_succ_of_le hj)
    | case3 depth j => exact Nat.le_succ_of_le hj
    | case4 depth j hlt _ _ _ _ ih => exact ih (Nat.le_succ_of_le hj)
    | case5 depth j hlt _ _ _ ih => exact ih (Nat.le_succ_of_le hj)
    | case6 => exact Nat.le_of_lt hi
  exact hmore 0 i (Nat.le_refl i)

/-- A name ends behind the place where it begins. -/
theorem le_of_nameEnd? {bytes : Array UInt8} {i next : Nat} (h : nameEnd? bytes i = some next) :
    i ≤ next := by
  unfold nameEnd? at h
  split at h
  · rename_i hquoted
    cases h
    by_cases hi : i < bytes.size
    · exact Nat.le_of_lt (lt_of_quotedEnd? hi hquoted)
    · simp [quotedEnd?, hi] at hquoted
  · simp only [Option.ite_none_right_eq_some, Option.some.injEq] at h
    omega

/-- Silence ends no earlier than the place where it begins. -/
theorem le_of_silenceWalk {text : List Char} {i next : Nat}
    (h : (silenceWalk text i).result = some next) : i ≤ next := by
  cases h
  exact le_silenceEnd _ i

/-- A group ends behind the place where it begins. -/
theorem le_of_groupWalk? {text : List Char} {i next : Nat}
    (h : (groupWalk? text i).result = some (some next)) : i ≤ next := by
  unfold groupWalk? at h
  split at h
  · rename_i hopen
    obtain ⟨hi, -⟩ := Array.getElem?_eq_some_iff.mp hopen
    obtain ⟨_, ⟨⟩, h⟩ := Walk.result_bind_eq_some.mp h
    obtain ⟨_, ⟨⟩, ⟨⟩⟩ := Walk.result_bind_eq_some.mp h
    exact Nat.le_trans (le_groupEnd hi) (le_silenceEnd _ _)
  · cases h

/-- A named query ends behind the place where it begins. -/
theorem le_of_namedQueryWalk {text : List Char} {i next : Nat}
    (h : (namedQueryWalk text i).result = some (some next)) : i ≤ next := by
  obtain ⟨start, hstart, h⟩ := Walk.result_bind_eq_some.mp h
  split at h
  · cases h
  · rename_i behind hname
    obtain ⟨_, ⟨⟩, h⟩ := Walk.result_bind_eq_some.mp h
    obtain ⟨named, hnamed, h⟩ := Walk.result_bind_eq_some.mp h
    obtain ⟨columns, hcolumns, h⟩ := Walk.result_bind_eq_some.mp h
    obtain ⟨rest, -, h⟩ := Walk.result_bind_eq_some.mp h
    obtain ⟨isAs, -, h⟩ := Walk.result_bind_eq_some.mp h
    split at h
    · obtain ⟨body, hbody, h⟩ := Walk.result_bind_eq_some.mp h
      have hlisted : named ≤ columns.getD named := by
        cases columns with
        | none => exact Nat.le_refl _
        | some listed => exact le_of_groupWalk? hcolumns
      have := le_of_silenceWalk hstart
      have := le_of_nameEnd? hname
      have := le_of_silenceWalk hnamed
      have := le_of_silenceWalk hbody
      have := le_of_groupWalk? h
      omega
    · cases h

/-- The place behind a list of named queries. -/
def queriesWalk (text : List Char) (i : Nat) : Walk (Option Nat) :=
  (namedQueryWalk text i).goOn fun
    | none, _ => pure none
    | some next, _found =>
      if _more : (bytesOf (String.ofList text))[next]? = some ','.toUInt8 then
        queriesWalk text (next + 1)
      else pure (some next)
termination_by (bytesOf (String.ofList text)).size - i
decreasing_by
  have := le_of_namedQueryWalk _found
  have := (Array.getElem?_eq_some_iff.mp _more).1
  omega

/-- The statement behind the word `WITH` at the head of a text, empty if its named queries are not
well formed. -/
def mainWalk (text : List Char) : Walk (List Char) := do
  let start ← silenceWalk text "WITH".utf8ByteSize
  let recursive ← keywordWalk "RECURSIVE" (← Walk.tryCut text start)
  let first := if recursive then start + "RECURSIVE".utf8ByteSize else start
  match ← queriesWalk text first with
  | none => pure []
  | some i => firstWordWalk (← Walk.tryCut text i)

/-! ## Kinds -/

/-- The kind of a statement that begins with its first word. -/
def kindWalk (text : List Char) : Walk StatementKind := do
  if ← keywordWalk "SELECT" text then pure .select
  else if ← keywordWalk "INSERT" text <||> keywordWalk "REPLACE" text then
    pure (if holdsDuplicateClause text then .upsert else .insert)
  else if ← keywordWalk "UPDATE" text then pure .update
  else if ← keywordWalk "DELETE" text then pure .delete
  else pure .other

/-- The kind of a statement. -/
def classifyWalk (sql : String) : Walk StatementKind := do
  let start ← firstWordWalk sql.toList
  if ← keywordWalk "WITH" start then kindWalk (← mainWalk start) else kindWalk start

end SqlAccess.Sql
