import Mathlib.Data.List.Forall2
import Mathlib.Tactic.Common

/-!
# When a computation succeeds, and why it fails

Reading and building are done in steps of which each may fail.  A success of the whole is taken
apart into the successes of its steps by the rules here, so no proof has to look at the failures.
A failure of the whole is the failure of one of its steps.

Where the same is done for every member of a list, the members and what comes of them go together.
-/

namespace SqlAccess

variable {ε ε' α β : Type}

/-- A sequence of two steps succeeds if both do. -/
lemma bind_eq_ok {x : Except ε α} {f : α → Except ε β} {b : β} :
    x >>= f = .ok b ↔ ∃ a, x = .ok a ∧ f a = .ok b := by
  cases x <;> simp [bind, Except.bind]

/-- A result is worked on if there is one. -/
lemma map_eq_ok {x : Except ε α} {f : α → β} {b : β} :
    x.map f = .ok b ↔ ∃ a, x = .ok a ∧ f a = b := by
  cases x <;> simp [Except.map]

/-- A sequence of two steps fails as the first that fails. -/
lemma bind_eq_error {x : Except ε α} {f : α → Except ε β} {e : ε} :
    x.bind f = .error e ↔ x = .error e ∨ ∃ a, x = .ok a ∧ f a = .error e := by
  cases x <;> simp [Except.bind]

lemma map_eq_error {x : Except ε α} {f : α → β} {e : ε} : x.map f = .error e ↔ x = .error e := by
  cases x <;> simp [Except.map]

/-- Failing in other words is failing. -/
lemma mapError_eq_ok {x : Except ε α} {f : ε → ε'} {a : α} :
    x.mapError f = .ok a ↔ x = .ok a := by
  cases x <;> simp [Except.mapError]

/-- What succeeds is what leaves something if the failures are forgotten. -/
lemma toOption_eq_some {x : Except ε α} {a : α} : x.toOption = some a ↔ x = .ok a := by
  cases x <;> simp [Except.toOption]

lemma toOption_map {x : Except ε α} {f : α → β} : (x.map f).toOption = x.toOption.map f := by
  cases x <;> rfl

lemma toOption_mapError {x : Except ε α} {f : ε → ε'} : (x.mapError f).toOption = x.toOption := by
  cases x <;> rfl

lemma exists_eq_ok {x : Except ε α} (h : x.toOption.isSome = true) :
    ∃ a, x = .ok a := by
  obtain ⟨a, ha⟩ := Option.isSome_iff_exists.mp h
  exact ⟨a, toOption_eq_some.mp ha⟩

/-! ## Lists -/

/-- What is known of every member of a list, some member of another list goes with it. -/
lemma exists_forall₂_iff {rel : α → β → Prop} {as : List α} :
    (∃ bs, List.Forall₂ rel as bs) ↔ ∀ a ∈ as, ∃ b, rel a b := by
  induction as with
  | nil => simp
  | cons a as ih =>
      rw [List.forall_mem_cons, ← ih]
      constructor
      · rintro ⟨_, h⟩
        cases h with
        | cons hfirst hothers => exact ⟨⟨_, hfirst⟩, _, hothers⟩
      · rintro ⟨⟨b, hfirst⟩, bs, hothers⟩
        exact ⟨b :: bs, .cons hfirst hothers⟩

/-- What is worked on member by member, the first member first, succeeds if every member does. -/
lemma members_eq_ok (one : α → Except ε β) (all : List α → Except ε (List β))
    (hnil : all [] = .ok [])
    (hcons : ∀ a as, all (a :: as) = one a >>= fun b => all as >>= fun bs => .ok (b :: bs))
    {as : List α} {bs : List β} :
    all as = .ok bs ↔ List.Forall₂ (fun a b => one a = .ok b) as bs := by
  induction as generalizing bs with
  | nil => simp [hnil, eq_comm]
  | cons a as ih =>
      rw [hcons, bind_eq_ok, List.forall₂_cons_left_iff]
      constructor
      · rintro ⟨b, hb, h⟩
        obtain ⟨others, hothers, h⟩ := bind_eq_ok.mp h
        obtain rfl := Except.ok.inj h
        exact ⟨b, others, hb, ih.mp hothers, rfl⟩
      · rintro ⟨b, others, hb, hothers, rfl⟩
        exact ⟨b, hb, bind_eq_ok.mpr ⟨others, ih.mpr hothers, rfl⟩⟩

/-- What goes with two lists in a row goes with the one and then with the other. -/
lemma forall₂_append_left_iff {rel : α → β → Prop} {as others : List α} {bs : List β} :
    List.Forall₂ rel (as ++ others) bs ↔
      ∃ first second, List.Forall₂ rel as first ∧ List.Forall₂ rel others second ∧
        bs = first ++ second := by
  constructor
  · intro h
    refine ⟨bs.take as.length, bs.drop as.length, ?_, ?_, (List.take_append_drop _ bs).symm⟩
    · simpa using List.forall₂_take as.length h
    · simpa using List.forall₂_drop as.length h
  · rintro ⟨first, second, hfirst, hsecond, rfl⟩
    exact List.rel_append hfirst hsecond

/-- Every member of a list goes with a member of the other. -/
lemma exists_mem_of_forall₂ {rel : α → β → Prop} {as : List α} {bs : List β}
    (h : List.Forall₂ rel as bs) {a : α} (ha : a ∈ as) : ∃ b ∈ bs, rel a b := by
  induction h with
  | nil => cases ha
  | @cons first b _ _ hfirst _ ih =>
      rcases List.mem_cons.mp ha with rfl | ha
      · exact ⟨b, List.mem_cons_self, hfirst⟩
      · obtain ⟨b, hb, hrel⟩ := ih ha
        exact ⟨b, List.mem_cons_of_mem _ hb, hrel⟩

/-- Two lists that go together come out alike exactly if each two members do. -/
lemma map_eq_map_iff_of_forall₂ {γ : Type} {rel : α → β → Prop} {f : α → γ} {g : β → γ}
    {p : α → Prop} {as : List α} {bs : List β} (h : List.Forall₂ rel as bs)
    (hone : ∀ a ∈ as, ∀ b, rel a b → (g b = f a ↔ p a)) :
    bs.map g = as.map f ↔ ∀ a ∈ as, p a := by
  induction h with
  | nil => simp
  | cons hfirst _ ih =>
      obtain ⟨hone, hothers⟩ := List.forall_mem_cons.mp hone
      rw [List.map_cons, List.map_cons, List.cons.injEq, hone _ hfirst, ih hothers,
        List.forall_mem_cons]

end SqlAccess
