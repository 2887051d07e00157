import SqlAccess.Ident
import SqlAccess.Proofs.Success

/-!
# Valid identifiers

An identifier is valid if it has a part, its bare parts are plain words, and its backticked parts
are names: not empty, and without NUL.  The type `Ident` allows more than that, but **nothing else
comes out of a reading**: `Ident.isValid_of_read` and `Ident.isValid_of_ofName` cover the two ways
to an identifier.

Reading splits a text into segments and reads each by itself, so what is needed of the segments is
only that they hold characters of the text and that there is at least one.
-/

namespace SqlAccess

/-- Whether a part is what its form promises. -/
def IdentPart.IsValid : IdentPart → Prop
  | .bare name => isPlainWord name.toList = true
  | .backticked name => name.toList ≠ [] ∧ '\x00' ∉ name.toList

instance (part : IdentPart) : Decidable part.IsValid := by
  cases part <;> unfold IdentPart.IsValid <;> infer_instance

/-- Whether an identifier has a part, and valid parts only. -/
structure Ident.IsValid (ident : Ident) : Prop where
  parts_ne_nil : ident.parts ≠ []
  parts_valid : ∀ part ∈ ident.parts, part.IsValid

/-- What may begin a plain word may stand inside it as well. -/
lemma continuesWord_of_isPlainWord {word : List Char} (h : isPlainWord word = true) :
    ∀ c ∈ word, continuesWord c = true := by
  cases word with
  | nil => simp
  | cons c word =>
      simp only [isPlainWord, startsWord, Bool.and_eq_true, List.all_eq_true] at h
      refine List.forall_mem_cons.mpr ⟨?_, h.2⟩
      have hc := h.1
      simp only [Bool.or_eq_true] at hc
      rcases hc with hc | hc <;> simp [continuesWord, Char.isAlphanum, hc]

/-! ## Segments -/

/-- There is always one segment more than there are dots. -/
lemma splitSegments_ne_nil {inside : Bool} {text : List Char} {segments : List (List Char)}
    (h : splitSegments inside text = some segments) : segments ≠ [] := by
  fun_induction splitSegments inside text generalizing segments with
  | case1 => simp at h
  | case2 =>
      obtain rfl : [[]] = segments := by simpa using h
      simp
  | case3 =>
      obtain ⟨rest, -, rfl⟩ := Option.map_eq_some_iff.mp h
      simp
  | case4 =>
      obtain ⟨rest, -, rfl⟩ := Option.map_eq_some_iff.mp h
      cases rest <;> simp [consFirst]

lemma mem_splitSegments {inside : Bool} {text : List Char} {segments : List (List Char)}
    (h : splitSegments inside text = some segments) {segment : List Char}
    (hsegment : segment ∈ segments) {c : Char} (hc : c ∈ segment) : c ∈ text := by
  fun_induction splitSegments inside text generalizing segments segment with
  | case1 => simp at h
  | case2 =>
      obtain rfl : [[]] = segments := by simpa using h
      obtain rfl := List.mem_singleton.mp hsegment
      exact hc
  | case3 inside d text _ ih =>
      obtain ⟨rest, hrest, rfl⟩ := Option.map_eq_some_iff.mp h
      rcases List.mem_cons.mp hsegment with rfl | hsegment
      · simp at hc
      · exact List.mem_cons_of_mem d (ih hrest hsegment hc)
  | case4 inside d text _ ih =>
      obtain ⟨rest, hrest, rfl⟩ := Option.map_eq_some_iff.mp h
      cases rest with
      | nil => exact absurd rfl (splitSegments_ne_nil hrest)
      | cons first others =>
          rw [consFirst] at hsegment
          rcases List.mem_cons.mp hsegment with rfl | hsegment
          · rcases List.mem_cons.mp hc with rfl | hc
            · exact List.mem_cons_self
            · exact List.mem_cons_of_mem d (ih hrest List.mem_cons_self hc)
          · exact List.mem_cons_of_mem d (ih hrest (List.mem_cons_of_mem first hsegment) hc)

/-! ## Parts -/

/-- Collapsing doubled backticks makes up no character. -/
lemma mem_undoubleBackticks {text name : List Char} (h : undoubleBackticks text = some name)
    {c : Char} (hc : c ∈ name) : c ∈ text := by
  fun_induction undoubleBackticks text generalizing name <;> grind [Option.map_eq_some_iff]

lemma undoubleBackticks_ne_nil {text name : List Char} (h : undoubleBackticks text = some name)
    (htext : text ≠ []) : name ≠ [] := by
  fun_induction undoubleBackticks text generalizing name <;> grind [Option.map_eq_some_iff]

/-- What is read from a segment without NUL is valid. -/
lemma IdentPart.isValid_of_readSegment {segment : List Char} {part : IdentPart}
    (h : readSegment segment = .ok part) (hnul : '\x00' ∉ segment) : part.IsValid := by
  unfold readSegment at h
  split at h
  · simp at h
  · rename_i c rest
    split_ifs at h with hc hlast hempty hword
    · split at h
      · simp at h
      · rename_i name hname
        obtain rfl := Except.ok.inj h
        have hne : rest.dropLast ≠ [] := by simpa using hempty
        refine ⟨?_, fun hmem => hnul ?_⟩
        · simpa using undoubleBackticks_ne_nil hname hne
        · rw [String.toList_ofList] at hmem
          have hrest := (List.dropLast_subset rest) (mem_undoubleBackticks hname hmem)
          exact List.mem_cons_of_mem c hrest
    · obtain rfl := Except.ok.inj h
      simpa [IdentPart.IsValid] using hword

/-- What is read from segments without NUL is valid, and there is one part for each. -/
lemma isValid_of_readSegments {segments : List (List Char)} {parts : List IdentPart}
    (h : readSegments segments = .ok parts) (hnul : ∀ segment ∈ segments, '\x00' ∉ segment) :
    parts.length = segments.length ∧ ∀ part ∈ parts, part.IsValid := by
  induction segments generalizing parts with
  | nil =>
      obtain rfl := Except.ok.inj h
      simp
  | cons segment segments ih =>
      rw [List.forall_mem_cons] at hnul
      obtain ⟨part, hpart, h⟩ := bind_eq_ok.mp h
      obtain ⟨others, hothers, h⟩ := bind_eq_ok.mp h
      obtain rfl := Except.ok.inj h
      obtain ⟨hlength, hvalid⟩ := ih hothers hnul.2
      refine ⟨by simp [hlength], List.forall_mem_cons.mpr ⟨?_, hvalid⟩⟩
      exact IdentPart.isValid_of_readSegment hpart hnul.1

/-! ## Readings -/

lemma checkName_ok {s : String} (h : checkName s = .ok ()) :
    s.toList ≠ [] ∧ '\x00' ∉ s.toList := by
  unfold checkName at h
  split_ifs at h with hempty hnul
  exact ⟨by simpa using hempty, by simpa using hnul⟩

/-- **What is read is valid.** -/
theorem Ident.isValid_of_read {s : String} {ident : Ident} (h : Ident.read s = .ok ident) :
    ident.IsValid := by
  obtain ⟨_, hname, h⟩ := bind_eq_ok.mp h
  obtain ⟨-, hnul⟩ := checkName_ok hname
  split at h
  · simp at h
  · rename_i segments hsegments
    obtain ⟨parts, hparts, h⟩ := bind_eq_ok.mp h
    obtain rfl := Except.ok.inj h
    have hsegment : ∀ segment ∈ segments, '\x00' ∉ segment := fun segment hmem hc =>
      hnul (mem_splitSegments hsegments hmem hc)
    obtain ⟨hlength, hvalid⟩ := isValid_of_readSegments hparts hsegment
    refine ⟨?_, hvalid⟩
    rintro rfl
    exact splitSegments_ne_nil hsegments (List.eq_nil_of_length_eq_zero hlength.symm)

/-- **A name that is taken as it is makes a valid identifier.** -/
theorem Ident.isValid_of_ofName {name : String} {ident : Ident}
    (h : Ident.ofName name = .ok ident) : ident.IsValid := by
  obtain ⟨_, hname, h⟩ := bind_eq_ok.mp h
  obtain rfl := Except.ok.inj h
  exact ⟨by simp, by simpa [IdentPart.IsValid] using checkName_ok hname⟩

end SqlAccess
