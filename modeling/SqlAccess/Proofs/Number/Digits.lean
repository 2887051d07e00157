import Mathlib.Tactic.Common
import SqlAccess.Number.Integer
import SqlAccess.Proofs.Success
import SqlAccess.Text.Blank

/-!
# Numbers read from digits

Digits are read from the left, and the number that has been read only grows.  So a number passes its
limit at some digit exactly if it is beyond the limit in the end (`readDigits_eq_ok`), and what is
read of a text is told without the walk over its digits.

* **`IntegerRange.read_eq_ok`** — the texts that are read as a number of a range: digits, with a
  sign in front or without.
* **`IntegerRange.read_intText`** — a number that is written out is read back exactly if it lies in
  the range.
-/

namespace SqlAccess

/-- The number goes on growing while digits are read. -/
lemma le_ofDigitChars (n : Nat) (digits : List Char) : n ≤ Nat.ofDigitChars 10 digits n := by
  rw [Nat.ofDigitChars_eq_ofDigitChars_zero]
  have hpos : 0 < 10 ^ digits.length := Nat.pow_pos (by decide)
  exact Nat.le_add_right_of_le (Nat.le_mul_of_pos_left n hpos)

/-- **Digits are read as the number that they spell**, unless it is beyond the limit. -/
lemma readDigits_eq_ok {limit : Nat} {beyond : IntegerError} {n m : Nat} {text : List Char}
    (hn : n ≤ limit) : readDigits limit beyond n text = .ok m ↔
      (∀ c ∈ text, c.isDigit = true) ∧ Nat.ofDigitChars 10 text n = m ∧ m ≤ limit := by
  induction text generalizing n with
  | nil =>
      simp only [readDigits, Except.ok.injEq, List.not_mem_nil, false_imp_iff, implies_true,
        Nat.ofDigitChars_nil, true_and]
      constructor
      · rintro rfl
        exact ⟨rfl, hn⟩
      · exact And.left
  | cons c text ih =>
      have hstep : n * 10 + Text.digitValue c = 10 * n + (c.toNat - '0'.toNat) := by
        rw [Nat.mul_comm]
        rfl
      rw [readDigits, hstep, Nat.ofDigitChars_cons, List.forall_mem_cons]
      split_ifs with hdigit
      · by_cases hlimit : 10 * n + (c.toNat - '0'.toNat) ≤ limit
        · rw [if_pos hlimit, ih hlimit]
          simp only [hdigit, true_and]
        · rw [if_neg hlimit]
          refine iff_of_false nofun ?_
          rintro ⟨-, rfl, hm⟩
          exact hlimit (Nat.le_trans (le_ofDigitChars _ text) hm)
      · exact iff_of_false nofun fun h => hdigit h.1.1

/-- Digits, at least one of them. -/
def AreDigits (text : List Char) : Prop :=
  text ≠ [] ∧ ∀ c ∈ text, c.isDigit = true

/-- The number that digits spell. -/
def spelled (digits : List Char) : Nat :=
  Nat.ofDigitChars 10 digits 0

lemma toNat_of_isDigit {c : Char} (h : c.isDigit = true) : 48 ≤ c.toNat ∧ c.toNat ≤ 57 :=
  Char.isDigit_iff_toNat.mp h

lemma isBlank_of_isDigit {c : Char} (h : c.isDigit = true) : Text.isBlank c = false := by
  have hc := toNat_of_isDigit h
  simp only [Text.isBlank, Bool.or_eq_false_iff, Bool.and_eq_false_iff, decide_eq_false_iff_not,
    beq_eq_false_iff_ne]
  omega

/-- A single digit spells at most nine. -/
lemma spelled_singleton_le {c : Char} (h : c.isDigit = true) : spelled [c] ≤ 9 := by
  have hc := toNat_of_isDigit h
  show 10 * 0 + (c.toNat - 48) ≤ 9
  omega

lemma readDigits_zero_eq_ok {limit : Nat} {beyond : IntegerError} {n : Nat} {text : List Char} :
    readDigits limit beyond 0 text = .ok n ↔
      (∀ c ∈ text, c.isDigit = true) ∧ spelled text = n ∧ n ≤ limit :=
  readDigits_eq_ok (Nat.zero_le limit)

lemma areDigits_toDigits (n : Nat) : AreDigits (Nat.toDigits 10 n) :=
  ⟨Nat.toDigits_ne_nil, fun _ => Nat.isDigit_of_mem_toDigits (by decide) (by decide)⟩

lemma spelled_toDigits (n : Nat) : spelled (Nat.toDigits 10 n) = n :=
  Nat.ofDigitChars_ten_toDigits

lemma ne_of_isDigit {c sign : Char} (hc : c.isDigit = true) (hsign : sign.isDigit = false) :
    c ≠ sign := by
  rintro rfl
  rw [hc] at hsign
  cases hsign

/-- A text that starts with digits does not start with a sign. -/
lemma AreDigits.append_ne_cons {sign : Char} {digits rest others : List Char} (h : AreDigits digits)
    (hsign : sign.isDigit = false) : digits ++ rest ≠ sign :: others := by
  obtain ⟨hne, hdigits⟩ := h
  obtain ⟨c, digits, rfl⟩ := List.exists_cons_of_ne_nil hne
  intro heq
  exact ne_of_isDigit (hdigits c List.mem_cons_self) hsign (List.cons.inj heq).1

lemma AreDigits.ne_cons {sign : Char} {digits others : List Char} (h : AreDigits digits)
    (hsign : sign.isDigit = false) : digits ≠ sign :: others := by
  have hne : digits ++ [] ≠ sign :: others := h.append_ne_cons hsign
  rwa [List.append_nil] at hne

namespace IntegerRange

variable {range : IntegerRange} {m : Int} {digits : List Char}

lemma map_readDigits_eq_ok {limit : Nat} {beyond : IntegerError} (f : Nat → Int)
    (hne : digits ≠ []) : (readDigits limit beyond 0 digits).map f = .ok m ↔
      AreDigits digits ∧ spelled digits ≤ limit ∧ f (spelled digits) = m := by
  simp only [map_eq_ok, readDigits_zero_eq_ok, AreDigits]
  constructor
  · rintro ⟨_, ⟨hdigits, rfl, hlimit⟩, hm⟩
    exact ⟨⟨hne, hdigits⟩, hlimit, hm⟩
  · rintro ⟨⟨-, hdigits⟩, hlimit, hm⟩
    exact ⟨_, ⟨hdigits, rfl, hlimit⟩, hm⟩

lemma read_plus (hne : digits ≠ []) :
    range.read ('+' :: digits) = (readDigits range.above .tooLarge 0 digits).map Int.ofNat := by
  cases digits with
  | nil => exact absurd rfl hne
  | cons => rfl

lemma read_minus (hne : digits ≠ []) (hbelow : range.below ≠ 0) :
    range.read ('-' :: digits) =
      (readDigits range.below .tooSmall 0 digits).map fun n : Nat => -(n : Int) := by
  cases digits with
  | nil => exact absurd rfl hne
  | cons c digits =>
      rw [read, if_neg hbelow]
      · cases readDigits range.below .tooSmall 0 (c :: digits) <;> rfl
      · exact hne

lemma read_cons {c : Char} (hplus : c ≠ '+') (hminus : c ≠ '-') (text : List Char) :
    range.read (c :: text) = (readDigits range.above .tooLarge 0 (c :: text)).map Int.ofNat := by
  rw [read] <;> simp [hplus, hminus]

/-- **The texts that are read as a number**: digits by themselves, behind a plus sign, or, where
negative numbers are in the range, behind a minus sign. -/
theorem read_eq_ok {text : List Char} : range.read text = .ok m ↔ ∃ digits, AreDigits digits ∧
    ((text = digits ∨ text = '+' :: digits) ∧ spelled digits ≤ range.above ∧ spelled digits = m ∨
      text = '-' :: digits ∧ range.below ≠ 0 ∧ spelled digits ≤ range.below ∧
        -(spelled digits : Int) = m) := by
  constructor
  · intro h
    cases text with
    | nil => cases h
    | cons c digits =>
        by_cases hplus : c = '+'
        · subst hplus
          have hne : digits ≠ [] := by
            rintro rfl
            cases h
          obtain ⟨hdigits, hread⟩ := (map_readDigits_eq_ok _ hne).mp (read_plus hne ▸ h)
          exact ⟨digits, hdigits, .inl ⟨.inr rfl, hread⟩⟩
        by_cases hminus : c = '-'
        · subst hminus
          have hne : digits ≠ [] := by
            rintro rfl
            cases h
          have hbelow : range.below ≠ 0 := by
            intro hzero
            rw [read, if_pos hzero] at h
            · cases h
            · exact hne
          obtain ⟨hdigits, hread⟩ := (map_readDigits_eq_ok _ hne).mp (read_minus hne hbelow ▸ h)
          exact ⟨digits, hdigits, .inr ⟨rfl, hbelow, hread⟩⟩
        rw [read_cons hplus hminus] at h
        obtain ⟨hdigits, hread⟩ := (map_readDigits_eq_ok _ (List.cons_ne_nil c digits)).mp h
        exact ⟨c :: digits, hdigits, .inl ⟨.inl rfl, hread⟩⟩
  · rintro ⟨digits, hdigits, ⟨rfl | rfl, hread⟩ | ⟨rfl, hbelow, hread⟩⟩
    · obtain ⟨c, digits, rfl⟩ := List.exists_cons_of_ne_nil hdigits.1
      have hc := hdigits.2 c List.mem_cons_self
      rw [read_cons (ne_of_isDigit hc rfl) (ne_of_isDigit hc rfl)]
      exact (map_readDigits_eq_ok _ hdigits.1).mpr ⟨hdigits, hread⟩
    · rw [read_plus hdigits.1]
      exact (map_readDigits_eq_ok _ hdigits.1).mpr ⟨hdigits, hread⟩
    · rw [read_minus hdigits.1 hbelow]
      exact (map_readDigits_eq_ok _ hdigits.1).mpr ⟨hdigits, hread⟩

/-- **A number that is written out is read back** exactly if it lies in the range. -/
theorem read_intText {n : Int} :
    range.read (Text.intText n) = .ok m ↔ range.Contains n ∧ m = n := by
  have hdigits := areDigits_toDigits n.natAbs
  have hspelled := spelled_toDigits n.natAbs
  rw [read_eq_ok, Text.intText]
  split_ifs with hneg
  · constructor
    · rintro ⟨digits, hd, ⟨rfl | hplus, -⟩ | ⟨hminus, -, hlimit, rfl⟩⟩
      · exact absurd rfl (hd.ne_cons rfl)
      · cases hplus
      · obtain rfl := List.tail_eq_of_cons_eq hminus
        rw [hspelled] at hlimit ⊢
        exact ⟨⟨by omega, by omega⟩, by omega⟩
    · rintro ⟨⟨hbelow, -⟩, rfl⟩
      exact ⟨_, hdigits, .inr ⟨rfl, by omega, by omega, by omega⟩⟩
  · constructor
    · rintro ⟨digits, hd, ⟨rfl | hplus, hlimit, rfl⟩ | ⟨hminus, -⟩⟩
      · rw [hspelled] at hlimit ⊢
        exact ⟨⟨by omega, by omega⟩, by omega⟩
      · exact absurd hplus (hdigits.ne_cons rfl)
      · exact absurd hminus (hdigits.ne_cons rfl)
    · rintro ⟨⟨-, habove⟩, rfl⟩
      exact ⟨_, hdigits, .inl ⟨.inl rfl, by omega, by omega⟩⟩

end IntegerRange

end SqlAccess
