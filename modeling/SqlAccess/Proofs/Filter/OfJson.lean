import SqlAccess.Proofs.Filter.Steps
import SqlAccess.Proofs.Success

/-!
# Filters read from JSON

A filter may be written down as a JSON object or be built step by step.  The two agree: an object
stands for the steps that its members ask for, in the order in which they are written.  A member
that is an object asks for one step for each of its operators, and every other member asks for an
equality.

* `Json.IsDemand` — what a member may hold.
* `Filter.Asks` — the steps that a member asks for.
* **`Filter.ofJson_iff`** — a JSON value is a filter exactly if it is an object whose members all
  are demands; and then it is the filter that the steps of its members build.

The second half needs that no column is named twice.  An object that names one twice would set the
condition of the column twice, where the steps of two members would add up.
-/

namespace SqlAccess

/-! ## Operators -/

namespace Operator

/-- The names of the operators, of which one has two. -/
def names : List String :=
  ["gt", "gte", "lt", "lte", "eq", "ne", "like", "in", "nin", "not_in", "raw"]

/-- A name is that of an operator if it is listed. -/
lemma exists_ofKey?_iff {name : String} : (∃ op, ofKey? name = some op) ↔ name ∈ names := by
  constructor
  · rintro ⟨op, h⟩
    unfold ofKey? at h
    split_ifs at h with hsecond
    · rw [hsecond]
      decide
    · obtain rfl : op.key = name := by simpa using List.find?_some h
      cases op <;> decide
  · intro h
    have hall : ∀ name ∈ names, (ofKey? name).isSome = true := by decide
    exact Option.isSome_iff_exists.mp (hall name h)

end Operator

/-! ## Members -/

/-- Whether a JSON value is an object. -/
def Json.isObject : Json → Bool
  | .object _ => true
  | _ => false

/-- Whether a JSON value says what a filter demands of a column: a value that holds no object but
raw markers, or operators with such values, of which there must be one. -/
inductive Json.IsDemand : Json → Prop
  | value {j : Json} (hobject : j.isObject = false) (hvalue : ∃ value, Value.ofJson? j = some value) :
      IsDemand j
  | operators {operands : List (String × Json)} (hne : operands ≠ [])
      (hoperands : ∀ entry ∈ operands, entry.1 ∈ Operator.names ∧
        ∃ value, Value.ofJson? entry.2 = some value) : IsDemand (.object operands)

namespace Filter

/-- An entry of an object names an operator and holds its operand. -/
def IsOperator (entry : String × Json) (op : Operator × Value) : Prop :=
  Operator.ofKey? entry.1 = some op.1 ∧ Value.ofJson? entry.2 = some op.2

/-- The step that adds an operator to a column. -/
def operatorStep (column : String) (op : Operator × Value) : Step :=
  ⟨column, .and op.1 op.2⟩

/-- `Asks column j steps`: the member `j` asks for these steps on its column. -/
inductive Asks (column : String) : Json → List Step → Prop
  | value {j : Json} {value : Value} (hobject : j.isObject = false)
      (hvalue : Value.ofJson? j = some value) : Asks column j [⟨column, .eq value⟩]
  | operators {operands : List (String × Json)} {ops : List (Operator × Value)}
      (hne : operands ≠ []) (hops : List.Forall₂ IsOperator operands ops) :
      Asks column (.object operands) (ops.map (operatorStep column))

/-! ## What a member is read as -/

lemma operatorOfJson_eq_ok {column : String} {entry : String × Json} {op : Operator × Value} :
    operatorOfJson column entry.1 entry.2 = .ok op ↔ IsOperator entry op := by
  obtain ⟨op, value⟩ := op
  unfold operatorOfJson IsOperator
  cases Operator.ofKey? entry.1 <;> cases Value.ofJson? entry.2 <;> simp

lemma operatorsOfJson_eq_ok {column : String} {operands : List (String × Json)}
    {ops : List (Operator × Value)} :
    operatorsOfJson column operands = .ok ops ↔ List.Forall₂ IsOperator operands ops := by
  rw [members_eq_ok (fun entry => operatorOfJson column entry.1 entry.2) (operatorsOfJson column)
    rfl fun _ _ => rfl]
  simp only [operatorOfJson_eq_ok]

/-- An object that is not empty holds operators. -/
lemma conditionOfJson_object {column : String} {operands : List (String × Json)}
    (hne : operands ≠ []) :
    conditionOfJson column (.object operands) = (operatorsOfJson column operands).map .ops := by
  cases operands with
  | nil => exact absurd rfl hne
  | cons entry operands => rfl

/-- A value that is no object asks for equality. -/
lemma conditionOfJson_of_not_isObject {column : String} {j : Json} (h : j.isObject = false)
    {condition : Condition} :
    conditionOfJson column j = .ok condition ↔
      ∃ value, Value.ofJson? j = some value ∧ .equals value = condition := by
  unfold conditionOfJson
  split
  · cases h
  · cases h
  · cases Value.ofJson? j <;> simp

/-- Operators that are named can be read if their operands can. -/
lemma exists_isOperator_iff {entry : String × Json} :
    (∃ op, IsOperator entry op) ↔
      entry.1 ∈ Operator.names ∧ ∃ value, Value.ofJson? entry.2 = some value := by
  rw [← Operator.exists_ofKey?_iff]
  constructor
  · rintro ⟨⟨op, value⟩, hop, hvalue⟩
    exact ⟨⟨op, hop⟩, value, hvalue⟩
  · rintro ⟨⟨op, hop⟩, value, hvalue⟩
    exact ⟨(op, value), hop, hvalue⟩

/-! ## The steps that a member asks for -/

/-- A member asks for steps if it is a demand. -/
lemma exists_asks_iff (column : String) {j : Json} :
    (∃ steps, Asks column j steps) ↔ j.IsDemand := by
  constructor
  · rintro ⟨steps, h⟩
    cases h with
    | value hobject hvalue => exact .value hobject ⟨_, hvalue⟩
    | operators hne hops =>
        refine .operators hne fun entry hentry => ?_
        obtain ⟨op, -, hop⟩ := exists_mem_of_forall₂ hops hentry
        exact exists_isOperator_iff.mp ⟨op, hop⟩
  · intro h
    cases h with
    | value hobject hvalue =>
        obtain ⟨value, hvalue⟩ := hvalue
        exact ⟨_, .value hobject hvalue⟩
    | operators hne hoperands =>
        obtain ⟨ops, hops⟩ := exists_forall₂_iff.mpr fun entry hentry =>
          exists_isOperator_iff.mpr (hoperands entry hentry)
        exact ⟨_, .operators hne hops⟩

/-- Steps that add operators to a column add them to the operators that it has. -/
lemma foldl_take_operators (f : Filter) (column : String) (before ops : List (Operator × Value)) :
    (ops.map (operatorStep column)).foldl take (f.put column (.ops before)) =
      f.put column (.ops (before ++ ops)) := by
  induction ops generalizing before with
  | nil => rw [List.map_nil, List.foldl_nil, List.append_nil]
  | cons op ops ih =>
      have hstep : (f.put column (.ops before)).take (operatorStep column op) =
          f.put column (.ops (before ++ [op])) := by
        simp only [take_eq, operatorStep, put, Change.apply, Entries.find?_put_self, extended,
          Entries.put_put]
      rw [List.map_cons, List.foldl_cons, hstep, ih, List.append_assoc, List.singleton_append]

/-- On a column without a condition they build the operators. -/
lemma foldl_take_of_new {f : Filter} {column : String} (hnew : f.entries.find? column = none)
    {ops : List (Operator × Value)} (hne : ops ≠ []) :
    (ops.map (operatorStep column)).foldl take f = f.put column (.ops ops) := by
  cases ops with
  | nil => exact absurd rfl hne
  | cons op ops =>
      have hstep : f.take (operatorStep column op) = f.put column (.ops [op]) := by
        simp only [take_eq, operatorStep, Change.apply, hnew, extended]
      rw [List.map_cons, List.foldl_cons, hstep, foldl_take_operators, List.singleton_append]

/-- **A member is read as what its steps build** on a column without a condition. -/
lemma put_conditionOfJson_iff (f : Filter) {column : String}
    (hnew : f.entries.find? column = none) {j : Json} {g : Filter} :
    (∃ condition, conditionOfJson column j = .ok condition ∧ g = f.put column condition) ↔
      ∃ steps, Asks column j steps ∧ g = steps.foldl take f := by
  constructor
  · rintro ⟨condition, h, rfl⟩
    by_cases hobject : j.isObject = false
    · obtain ⟨value, hvalue, rfl⟩ := (conditionOfJson_of_not_isObject hobject).mp h
      exact ⟨_, .value hobject hvalue, rfl⟩
    · cases j with
      | object operands =>
          have hne : operands ≠ [] := by
            rintro rfl
            cases h
          rw [conditionOfJson_object hne, map_eq_ok] at h
          obtain ⟨ops, hops, rfl⟩ := h
          have hops := operatorsOfJson_eq_ok.mp hops
          refine ⟨_, .operators hne hops, ?_⟩
          exact (foldl_take_of_new hnew fun hnil => hne (by simpa [hnil] using hops)).symm
      | _ => exact absurd rfl hobject
  · rintro ⟨steps, h, rfl⟩
    cases h with
    | value hobject hvalue =>
        exact ⟨_, (conditionOfJson_of_not_isObject hobject).mpr ⟨_, hvalue, rfl⟩, rfl⟩
    | operators hne hops =>
        refine ⟨_, ?_, foldl_take_of_new hnew fun hnil => hne (by simpa [hnil] using hops)⟩
        rw [conditionOfJson_object hne, operatorsOfJson_eq_ok.mpr hops]
        rfl

/-- A member can be read if it is a demand. -/
lemma exists_conditionOfJson_iff (column : String) {j : Json} :
    (∃ condition, conditionOfJson column j = .ok condition) ↔ j.IsDemand := by
  rw [← exists_asks_iff column]
  constructor
  · rintro ⟨condition, h⟩
    obtain ⟨steps, hasks, -⟩ := (put_conditionOfJson_iff empty rfl).mp ⟨condition, h, rfl⟩
    exact ⟨steps, hasks⟩
  · rintro ⟨steps, h⟩
    obtain ⟨condition, hread, -⟩ := (put_conditionOfJson_iff empty rfl).mpr ⟨steps, h, rfl⟩
    exact ⟨condition, hread⟩

/-! ## Objects -/

/-- An object can be read if its members can, whatever their names. -/
lemma exists_putMembers_iff {f : Filter} {members : List (String × Json)} :
    (∃ g, putMembers f members = .ok g) ↔ ∀ member ∈ members, member.2.IsDemand := by
  induction members generalizing f with
  | nil => simp [putMembers]
  | cons member members ih =>
      rw [List.forall_mem_cons, ← exists_conditionOfJson_iff member.1]
      simp only [putMembers, bind_eq_ok]
      constructor
      · rintro ⟨g, condition, hcondition, h⟩
        exact ⟨⟨condition, hcondition⟩, ih.mp ⟨g, h⟩⟩
      · rintro ⟨⟨condition, hcondition⟩, h⟩
        obtain ⟨g, h⟩ := ih.mpr h
        exact ⟨g, condition, hcondition, h⟩

/-- **The members of an object are put in as the steps that they ask for**, where they name columns
without a condition and each another one. -/
lemma putMembers_eq_ok {f : Filter} {members : List (String × Json)}
    (hnodup : (Entries.keys members).Nodup)
    (hnew : ∀ member ∈ members, f.entries.find? member.1 = none) {g : Filter} :
    putMembers f members = .ok g ↔
      ∃ steps, List.Forall₂ (fun member own => Asks member.1 member.2 own) members steps ∧
        g = steps.flatten.foldl take f := by
  induction members generalizing f with
  | nil => simp [putMembers, eq_comm]
  | cons member members ih =>
      obtain ⟨hfirst, hothers⟩ := List.forall_mem_cons.mp hnew
      obtain ⟨hname, hnodup⟩ := List.nodup_cons.mp hnodup
      -- The columns of the other members are still without a condition behind the first.
      have hput (condition : Condition) :
          ∀ other ∈ members, (f.put member.1 condition).entries.find? other.1 = none := by
        intro other hmem
        have hne : other.1 ≠ member.1 := fun heq => hname (heq ▸ List.mem_map_of_mem hmem)
        rw [put, Entries.find?_put_of_ne hne, hothers other hmem]
      rw [putMembers, bind_eq_ok]
      constructor
      · rintro ⟨condition, hcondition, h⟩
        obtain ⟨own, hown, hbuilt⟩ :=
          (put_conditionOfJson_iff f hfirst).mp ⟨condition, hcondition, rfl⟩
        obtain ⟨steps, hsteps, rfl⟩ := (ih hnodup (hput condition)).mp h
        refine ⟨own :: steps, .cons hown hsteps, ?_⟩
        rw [List.flatten_cons, List.foldl_append, ← hbuilt]
      · rintro ⟨steps, hsteps, rfl⟩
        cases hsteps with
        | @cons _ own _ steps hown hsteps =>
            obtain ⟨condition, hcondition, hbuilt⟩ :=
              (put_conditionOfJson_iff f hfirst).mpr ⟨own, hown, rfl⟩
            refine ⟨condition, hcondition, (ih hnodup (hput condition)).mpr ⟨steps, hsteps, ?_⟩⟩
            rw [List.flatten_cons, List.foldl_append, hbuilt]

/-- **Filters in JSON.**  A JSON value can be read as a filter exactly if it is an object of which
every member is a demand.  Where the members name different columns, the filter is the one that is
built step by step: an equality for each member that is no object, and for each other member its
operators in turn, in the order in which they are written. -/
theorem ofJson_iff (j : Json) :
    ((∃ f, ofJson j = .ok f) ↔
      ∃ members, j = .object members ∧ ∀ member ∈ members, member.2.IsDemand) ∧
    ∀ members, j = .object members → (Entries.keys members).Nodup → ∀ f, ofJson j = .ok f ↔
      ∃ steps, List.Forall₂ (fun member own => Asks member.1 member.2 own) members steps ∧
        f = ofSteps steps.flatten := by
  constructor
  · cases j with
    | object members =>
        rw [ofJson, exists_putMembers_iff]
        simp
    | _ => simp [ofJson]
  · rintro members rfl hnodup f
    exact putMembers_eq_ok hnodup fun _ _ => rfl

/-- An object with equalities, with operators of which two are one, and with raw SQL. -/
theorem ofJson_iff_of_members :
    let one : Json := .integer ⟨1, by decide⟩
    let members : List (String × Json) :=
      [("name", .null), ("id", .object [("nin", one), ("like", .string "1%"), ("not_in", one)]),
        ("size", .object [("lt", .object [("raw", .string "max_size")])])]
    let steps : List Step :=
      [⟨"name", .eq .null⟩, ⟨"id", .and .notOneOf (.int 1)⟩, ⟨"id", .and .like (.text "1%")⟩,
        ⟨"id", .and .notOneOf (.int 1)⟩, ⟨"size", .and .lt (.raw "max_size")⟩]
    (Entries.keys members).Nodup ∧ (∀ member ∈ members, member.2.IsDemand) ∧
      ofJson (.object members) = .ok (ofSteps steps) := by
  intro one members steps
  have hnodup : (Entries.keys members).Nodup := by decide
  have hid : Asks "id" (.object [("nin", one), ("like", .string "1%"), ("not_in", one)])
      (List.map (operatorStep "id")
        [(.notOneOf, .int 1), (.like, .text "1%"), (.notOneOf, .int 1)]) :=
    .operators (by simp) (.cons ⟨rfl, rfl⟩ (.cons ⟨rfl, rfl⟩ (.cons ⟨rfl, rfl⟩ .nil)))
  have hsize : Asks "size" (.object [("lt", .object [("raw", .string "max_size")])])
      (List.map (operatorStep "size") [(.lt, .raw "max_size")]) :=
    .operators (by simp) (.cons ⟨rfl, rfl⟩ .nil)
  have hread : ofJson (.object members) = .ok (ofSteps steps) :=
    ((ofJson_iff (.object members)).2 members rfl hnodup _).mpr
      ⟨_, .cons (.value rfl rfl) (.cons hid (.cons hsize .nil)), rfl⟩
  obtain ⟨_, heq, hdemands⟩ := (ofJson_iff (.object members)).1.mp ⟨_, hread⟩
  obtain rfl := Json.object.inj heq
  exact ⟨hnodup, hdemands, hread⟩

end Filter

end SqlAccess
