import Mathlib.Data.List.Basic
import SqlAccess.Config.Environment
import SqlAccess.Proofs.Success

/-!
# References replaced from left to right

A configured text is read character by character, and what is inside a reference is gathered until
the reference is closed.  The same is told here without any reading: a text is cut into characters
that are kept and references, and each piece is replaced by itself.

**The environment has no say in the cut.**  Where a reference begins and ends is seen in the text
alone, so a value that looks like a reference, or like the end of one, changes nothing.  This is why
replacing once is all that there is.

* `Environment.Piece`, `Environment.IsCut` — the pieces of a text; there is one way to cut it
  (`exists_isCut`, `IsCut.unique`).
* `Piece.StandsFor`, `Piece.Fails` — what a piece is replaced by, and why it cannot be.
* **`Environment.expand_replaces_pieces`** — the text that comes out, and when none does.
-/

namespace SqlAccess.Environment

/-! ## Pieces of a text -/

/-- A piece of a text that may refer to variables. -/
inductive Piece where
  /-- A character that stands for itself. -/
  | kept (c : Char)
  /-- A reference to a variable. -/
  | reference (name : List Char)
  /-- A reference that is not closed before the text ends. -/
  | unclosed (name : List Char)
deriving DecidableEq, Repr

/-- The first piece of a text, and what is left behind it.  A reference goes from a dollar sign and
an opening brace to the next closing brace. -/
inductive IsFirst : List Char → Piece → List Char → Prop
  | reference {name rest : List Char} (hname : '\x7d' ∉ name) :
      IsFirst ('$' :: '\x7b' :: (name ++ '\x7d' :: rest)) (.reference name) rest
  | unclosed {name : List Char} (hname : '\x7d' ∉ name) :
      IsFirst ('$' :: '\x7b' :: name) (.unclosed name) []
  | kept {c : Char} {rest : List Char} (hopen : ∀ more, c :: rest ≠ '$' :: '\x7b' :: more) :
      IsFirst (c :: rest) (.kept c) rest

/-- The pieces of a text, from left to right. -/
inductive IsCut : List Char → List Piece → Prop
  | nil : IsCut [] []
  | cons {text rest : List Char} {piece : Piece} {pieces : List Piece}
      (hfirst : IsFirst text piece rest) (hrest : IsCut rest pieces) : IsCut text (piece :: pieces)

/-- A text begins with some piece. -/
lemma exists_isFirst {text : List Char} (h : text ≠ []) :
    ∃ piece rest, IsFirst text piece rest ∧ rest.length < text.length := by
  by_cases hopen : ∃ more, text = '$' :: '\x7b' :: more
  · obtain ⟨more, rfl⟩ := hopen
    by_cases hclose : '\x7d' ∈ more
    · obtain ⟨name, rest, rfl, hname⟩ := List.eq_append_cons_of_mem hclose
      refine ⟨_, rest, .reference hname, ?_⟩
      simp only [List.length_cons, List.length_append]
      omega
    · exact ⟨_, [], .unclosed hclose, Nat.zero_lt_succ _⟩
  · obtain ⟨c, rest, rfl⟩ := List.exists_cons_of_ne_nil h
    exact ⟨_, rest, .kept fun more heq => hopen ⟨more, heq⟩, Nat.lt_succ_self _⟩

/-- A name is told from what follows by the first closing brace. -/
lemma takeWhile_name {name : List Char} (hname : '\x7d' ∉ name) (rest : List Char) :
    (name ++ '\x7d' :: rest).takeWhile (· ≠ '\x7d') = name := by
  have hkept : ∀ c ∈ name, decide (c ≠ '\x7d') = true := by
    intro c hc
    exact decide_eq_true (ne_of_mem_of_not_mem hc hname)
  rw [List.takeWhile_append_of_pos hkept]
  exact List.append_nil name

lemma name_unique {name name' rest rest' : List Char} (hname : '\x7d' ∉ name)
    (hname' : '\x7d' ∉ name') (h : name ++ '\x7d' :: rest = name' ++ '\x7d' :: rest') :
    name = name' ∧ rest = rest' := by
  have hsame : name = name' := by rw [← takeWhile_name hname rest, h, takeWhile_name hname']
  subst hsame
  exact ⟨rfl, (List.cons.inj (List.append_cancel_left h)).2⟩

lemma mem_name_append (name rest : List Char) : '\x7d' ∈ name ++ '\x7d' :: rest :=
  List.mem_append_right _ List.mem_cons_self

/-- A text begins with one piece only. -/
lemma IsFirst.unique {text rest rest' : List Char} {piece piece' : Piece}
    (h : IsFirst text piece rest) (h' : IsFirst text piece' rest') :
    piece = piece' ∧ rest = rest' := by
  generalize hsame : text = text' at h'
  cases h with
  | @reference name rest hname =>
      cases h' with
      | reference hname' =>
          obtain ⟨rfl, rfl⟩ := name_unique hname hname' (by simpa using hsame)
          exact ⟨rfl, rfl⟩
      | unclosed hname' =>
          obtain rfl : name ++ '\x7d' :: rest = _ := by simpa using hsame
          exact absurd (mem_name_append name rest) hname'
      | kept hopen => exact absurd hsame.symm (hopen _)
  | @unclosed name hname =>
      cases h' with
      | reference hname' =>
          obtain rfl : name = _ := by simpa using hsame
          exact absurd (mem_name_append _ _) hname
      | unclosed hname' =>
          obtain rfl : name = _ := by simpa using hsame
          exact ⟨rfl, rfl⟩
      | kept hopen => exact absurd hsame.symm (hopen _)
  | kept hopen =>
      cases h' with
      | reference hname' => exact absurd hsame (hopen _)
      | unclosed hname' => exact absurd hsame (hopen _)
      | kept hopen' =>
          obtain ⟨rfl, rfl⟩ := List.cons.inj hsame
          exact ⟨rfl, rfl⟩

/-- **Every text can be cut**, also one that ends in an open reference. -/
lemma exists_isCut (text : List Char) : ∃ pieces, IsCut text pieces := by
  induction hlength : text.length using Nat.strongRecOn generalizing text with
  | ind length ih =>
      by_cases htext : text = []
      · exact ⟨[], htext ▸ .nil⟩
      · obtain ⟨piece, rest, hfirst, hlt⟩ := exists_isFirst htext
        obtain ⟨pieces, hrest⟩ := ih rest.length (hlength ▸ hlt) rest rfl
        exact ⟨piece :: pieces, .cons hfirst hrest⟩

/-- **There is one way only** to cut a text. -/
lemma IsCut.unique {text : List Char} {pieces pieces' : List Piece} (h : IsCut text pieces)
    (h' : IsCut text pieces') : pieces' = pieces := by
  induction h generalizing pieces' with
  | nil =>
      cases h' with
      | nil => rfl
      | cons hfirst _ => cases hfirst
  | cons hfirst _ ih =>
      cases h' with
      | nil => cases hfirst
      | cons hfirst' hrest' =>
          obtain ⟨rfl, rfl⟩ := hfirst.unique hfirst'
          rw [ih hrest']

/-! ## What becomes of a piece -/

section Replacing

variable (env : Environment)

/-- `StandsFor env piece text`: the piece is replaced by the text.  A character is kept, and a
reference gives way to the value of its variable as it is. -/
inductive Piece.StandsFor : Piece → List Char → Prop
  | kept (c : Char) : StandsFor (.kept c) [c]
  | value {name : List Char} {value : String} (hname : name ≠ [])
      (hvalue : env (String.ofList name) = some value) :
      StandsFor (.reference name) value.toList

/-- `Fails env piece e`: the piece cannot be replaced, because of `e`. -/
inductive Piece.Fails : Piece → ExpansionError → Prop
  | unterminated (name : List Char) :
      Fails (.unclosed name) (.unterminated (String.ofList name))
  | unnamed : Fails (.reference []) .unnamed
  | unset {name : List Char} (hname : name ≠ []) (hunset : env (String.ofList name) = none) :
      Fails (.reference name) (.unset (String.ofList name))

/-- `FirstFails env pieces e`: some of the pieces cannot be replaced, and the first of them because
of `e`. -/
inductive FirstFails : List Piece → ExpansionError → Prop
  | here {piece : Piece} {e : ExpansionError} (hfails : piece.Fails env e) (pieces : List Piece) :
      FirstFails (piece :: pieces) e
  | later {piece : Piece} {text : List Char} {pieces : List Piece} {e : ExpansionError}
      (hpiece : piece.StandsFor env text) (hfails : FirstFails pieces e) :
      FirstFails (piece :: pieces) e

/-- The text that a piece is replaced by. -/
def Piece.replaced : Piece → Except ExpansionError (List Char)
  | .kept c => .ok [c]
  | .reference name => env.resolve name
  | .unclosed name => .error (.unterminated (String.ofList name))

variable {env}

lemma Piece.replaced_eq_ok_iff {piece : Piece} {text : List Char} :
    piece.replaced env = .ok text ↔ piece.StandsFor env text := by
  constructor
  · intro h
    cases piece with
    | kept c =>
        cases h
        exact .kept c
    | unclosed name => cases h
    | reference name =>
        rw [replaced, resolve] at h
        split_ifs at h with hname
        cases hvalue : env (String.ofList name) with
        | none => simp [hvalue] at h
        | some value =>
            simp only [hvalue, Except.ok.injEq] at h
            exact h ▸ .value (mt List.isEmpty_iff.mpr hname) hvalue
  · intro h
    cases h with
    | kept c => rfl
    | value hname hvalue =>
        rw [replaced, resolve, if_neg (mt List.isEmpty_iff.mp hname), hvalue]

lemma Piece.replaced_eq_error_iff {piece : Piece} {e : ExpansionError} :
    piece.replaced env = .error e ↔ piece.Fails env e := by
  constructor
  · intro h
    cases piece with
    | kept c => cases h
    | unclosed name =>
        cases h
        exact .unterminated name
    | reference name =>
        rw [replaced, resolve] at h
        split_ifs at h with hname
        · cases h
          exact List.isEmpty_iff.mp hname ▸ .unnamed
        · cases hvalue : env (String.ofList name) with
          | none =>
              simp only [hvalue, Except.error.injEq] at h
              exact h ▸ .unset (mt List.isEmpty_iff.mpr hname) hvalue
          | some value => simp [hvalue] at h
  · intro h
    cases h with
    | unterminated name => rfl
    | unnamed => rfl
    | unset hname hunset =>
        rw [replaced, resolve, if_neg (mt List.isEmpty_iff.mp hname), hunset]

/-! ## Reading goes by pieces -/

/-- Inside a reference the name is gathered up to the next closing brace. -/
lemma expandFrom_name {name : List Char} (hname : '\x7d' ∉ name) (before text : List Char) :
    expandFrom env (some before) (name ++ text) = expandFrom env (some (before ++ name)) text := by
  induction name generalizing before with
  | nil => rw [List.nil_append, List.append_nil]
  | cons c name ih =>
      obtain ⟨hc, hname⟩ := not_or.mp (mt List.mem_cons.mpr hname)
      rw [List.cons_append, expandFrom, if_neg (Ne.symm hc), ih hname, List.append_assoc,
        List.singleton_append]

lemma expandFrom_reference {name : List Char} (hname : '\x7d' ∉ name) (rest : List Char) :
    expandFrom env none ('$' :: '\x7b' :: (name ++ '\x7d' :: rest)) =
      (env.resolve name).bind fun value => (expandFrom env none rest).map (value ++ ·) := by
  rw [expandFrom, expandFrom_name hname, List.nil_append, expandFrom, if_pos rfl]
  cases env.resolve name <;> cases expandFrom env none rest <;> rfl

lemma expandFrom_unclosed {name : List Char} (hname : '\x7d' ∉ name) :
    expandFrom env none ('$' :: '\x7b' :: name) =
      .error (.unterminated (String.ofList name)) := by
  rw [expandFrom, ← List.append_nil name, expandFrom_name hname, List.nil_append, List.append_nil,
    expandFrom]

lemma expandFrom_kept {c : Char} {rest : List Char}
    (hopen : ∀ more, c :: rest ≠ '$' :: '\x7b' :: more) :
    expandFrom env none (c :: rest) = (expandFrom env none rest).map (c :: ·) := by
  rw [expandFrom]
  rintro more rfl rfl
  exact hopen more rfl

/-- **The first piece is replaced, and reading goes on behind it.** -/
lemma expandFrom_first {text rest : List Char} {piece : Piece} (h : IsFirst text piece rest) :
    expandFrom env none text =
      (piece.replaced env).bind fun part => (expandFrom env none rest).map (part ++ ·) := by
  cases h with
  | reference hname => exact expandFrom_reference hname rest
  | unclosed hname => exact expandFrom_unclosed hname
  | kept hopen => exact expandFrom_kept hopen

variable {text : List Char} {pieces : List Piece}

/-- What comes out is the texts that the pieces stand for, one behind the other. -/
lemma expandFrom_eq_ok_iff (h : IsCut text pieces) {out : List Char} :
    expandFrom env none text = .ok out ↔
      ∃ parts, List.Forall₂ (Piece.StandsFor env) pieces parts ∧ parts.flatten = out := by
  induction h generalizing out with
  | nil => simp [expandFrom]
  | cons hfirst _ ih =>
      rw [expandFrom_first hfirst]
      refine bind_eq_ok.trans ?_
      simp only [map_eq_ok, ih, Piece.replaced_eq_ok_iff, List.forall₂_cons_left_iff]
      constructor
      · rintro ⟨part, hpart, _, ⟨parts, hparts, rfl⟩, rfl⟩
        exact ⟨part :: parts, ⟨part, parts, hpart, hparts, rfl⟩, rfl⟩
      · rintro ⟨_, ⟨part, parts, hpart, hparts, rfl⟩, rfl⟩
        exact ⟨part, hpart, _, ⟨parts, hparts, rfl⟩, rfl⟩

/-- Nothing comes out if a piece cannot be replaced, and the first such piece is to blame. -/
lemma expandFrom_eq_error_iff (h : IsCut text pieces) {e : ExpansionError} :
    expandFrom env none text = .error e ↔ FirstFails env pieces e := by
  induction h with
  | nil =>
      constructor
      · exact nofun
      · exact nofun
  | cons hfirst _ ih =>
      rw [expandFrom_first hfirst, bind_eq_error]
      simp only [map_eq_error, ih, Piece.replaced_eq_ok_iff, Piece.replaced_eq_error_iff]
      constructor
      · rintro (hfails | ⟨part, hpart, hfails⟩)
        · exact .here hfails _
        · exact .later hpart hfails
      · intro h
        cases h with
        | here hfails => exact .inl hfails
        | later hpart hfails => exact .inr ⟨_, hpart, hfails⟩

/-- A piece that stands for a text does not fail. -/
lemma Piece.StandsFor.not_fails {piece : Piece} {part : List Char} (h : piece.StandsFor env part)
    (e : ExpansionError) : ¬ piece.Fails env e := by
  intro hfails
  have hok := replaced_eq_ok_iff.mpr h
  rw [replaced_eq_error_iff.mpr hfails] at hok
  cases hok

lemma exists_firstFails_iff :
    (∃ e, FirstFails env pieces e) ↔ ∃ piece ∈ pieces, ∃ e, piece.Fails env e := by
  constructor
  · rintro ⟨e, h⟩
    induction h with
    | here hfails pieces => exact ⟨_, List.mem_cons_self, _, hfails⟩
    | later _ _ ih =>
        obtain ⟨piece, hmem, hfails⟩ := ih
        exact ⟨piece, List.mem_cons_of_mem _ hmem, hfails⟩
  · intro h
    induction pieces with
    | nil => simp at h
    | cons piece pieces ih =>
        cases hpiece : piece.replaced env with
        | error e => exact ⟨e, .here (Piece.replaced_eq_error_iff.mp hpiece) pieces⟩
        | ok part =>
            have hstands := Piece.replaced_eq_ok_iff.mp hpiece
            obtain ⟨other, hmem, e, hfails⟩ := h
            rcases List.mem_cons.mp hmem with rfl | hmem
            · exact absurd hfails (hstands.not_fails e)
            · obtain ⟨e, hfirst⟩ := ih ⟨other, hmem, e, hfails⟩
              exact ⟨e, .later hstands hfirst⟩

end Replacing

/-- **References are replaced once, from left to right.**  A text can be cut in one way into
characters and references, whatever the environment.  What comes out is the text in which every
reference has given way to the value of its variable and every other character is kept; and nothing
comes out exactly if some reference is not closed, has no name or names a variable that is not set.
The first of these is what is reported. -/
theorem expand_replaces_pieces (s : String) :
    ∃ pieces, (∀ pieces', IsCut s.toList pieces' ↔ pieces' = pieces) ∧
      ∀ env : Environment,
        (∀ t, env.expand s = .ok t ↔
          ∃ parts, List.Forall₂ (Piece.StandsFor env) pieces parts ∧ parts.flatten = t.toList) ∧
        ((∃ e, env.expand s = .error e) ↔ ∃ piece ∈ pieces, ∃ e, piece.Fails env e) ∧
        ∀ e, env.expand s = .error e ↔ FirstFails env pieces e := by
  obtain ⟨pieces, hcut⟩ := exists_isCut s.toList
  have hunique : ∀ pieces', IsCut s.toList pieces' ↔ pieces' = pieces := fun pieces' =>
    ⟨hcut.unique, fun hsame => hsame ▸ hcut⟩
  refine ⟨pieces, hunique, fun env => ?_⟩
  have herror (e : ExpansionError) : env.expand s = .error e ↔ FirstFails env pieces e :=
    map_eq_error.trans (expandFrom_eq_error_iff hcut)
  refine ⟨fun t => ?_, ?_, herror⟩
  · rw [expand, map_eq_ok, ← expandFrom_eq_ok_iff hcut]
    constructor
    · rintro ⟨out, hout, rfl⟩
      rwa [String.toList_ofList]
    · exact fun hout => ⟨t.toList, hout, String.ofList_toList⟩
  · simp only [herror, exists_firstFails_iff]

/-- A dollar sign before a reference is kept, and a value is not looked at again. -/
example :
    expand (fun name => if name = "A$\x7bB" then some "$\x7bA\x7d" else none)
      "$$\x7bA$\x7bB\x7d\x7d$" = .ok "$$\x7bA\x7d\x7d$" := by
  decide +kernel

end SqlAccess.Environment
