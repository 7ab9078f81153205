import CallHierarchy.Number.Binary64

/-! JSON values. The members of an object are a list of keys and values; in the objects that are
read from text the keys are in increasing order and each stands once. -/

namespace CallHierarchy

/-- A list of keys and values. -/
abbrev Dictionary (α : Type) := List (String × α)

namespace Dictionary

variable {α : Type}

/-- The value at a key. -/
def get? (key : String) : Dictionary α → Option α
  | [] => none
  | (k, v) :: rest => if k = key then some v else get? key rest

/-- Sets the value at a key, and keeps the keys in increasing order. -/
def insert (key : String) (value : α) : Dictionary α → Dictionary α
  | [] => [(key, value)]
  | (k, v) :: rest =>
    if key < k then (key, value) :: (k, v) :: rest
    else if key = k then (key, value) :: rest
    else (k, v) :: insert key value rest

/-- Takes a key out. -/
def erase (key : String) (d : Dictionary α) : Dictionary α := d.filter (·.1 ≠ key)

/-- The dictionary of a row of keys and values, the last of equal keys winning. -/
def ofList (entries : List (String × α)) : Dictionary α :=
  entries.foldl (fun d (k, v) => insert k v d) []

theorem get?_append (key : String) (a b : Dictionary α) :
    get? key (a ++ b) = (get? key a).or (get? key b) := by
  induction a with
  | nil => simp [get?]
  | cons e a ih =>
    simp only [List.cons_append, get?]
    split
    · rfl
    · exact ih

theorem get?_insert (key k : String) (v : α) (d : Dictionary α) :
    get? key (insert k v d) = if k = key then some v else get? key d := by
  induction d with
  | nil => simp [insert, get?]
  | cons e d ih =>
    simp only [insert]
    split
    · rfl
    · split
      · next h => subst h; by_cases hk : e.1 = key <;> simp [get?, hk]
      · next h =>
        simp only [get?, ih]
        by_cases hk : k = key
        · simp [hk, show ¬e.1 = key from fun he => h (hk.trans he.symm)]
        · simp [hk]

/-- In the dictionary of a row of entries, the last entry with a key counts. -/
theorem get?_ofList (key : String) (entries : List (String × α)) :
    get? key (ofList entries) = get? key entries.reverse := by
  have hfold : ∀ d : Dictionary α,
      get? key (entries.foldl (fun d (k, v) => insert k v d) d) =
        get? key (entries.reverse ++ d) := by
    induction entries with
    | nil => intro d; rfl
    | cons e entries ih =>
      intro d
      rw [List.foldl_cons, ih, List.reverse_cons, List.append_assoc, get?_append, get?_append,
        get?_insert]
      rfl
  rw [ofList, hfold, List.append_nil]

end Dictionary

/-- A number is an integer between `-2 ^ 63` and `2 ^ 64 - 1`, or a floating-point number. -/
inductive Json.Number where
  | integer (n : Int)
  | real (x : Binary64)
  deriving DecidableEq, Repr, Inhabited

inductive Json where
  | null
  | bool (b : Bool)
  | number (n : Json.Number)
  | string (s : String)
  | array (elements : List Json)
  | object (members : List (String × Json))
  deriving Inhabited

namespace Json

def int (n : Int) : Json := .number (.integer n)

def nat (n : Nat) : Json := int n

/-- The value of an object at a key. -/
def get? (key : String) : Json → Option Json
  | .object members => Dictionary.get? key members
  | _ => none

def asString? : Json → Option String
  | .string s => some s
  | _ => none

def asBool? : Json → Option Bool
  | .bool b => some b
  | _ => none

def asArray? : Json → Option (List Json)
  | .array elements => some elements
  | _ => none

/-- The integer that the value is, if it lies between `low` and `high`. -/
def asInt? (low high : Int) : Json → Option Int
  | .number (.integer n) => if low ≤ n ∧ n ≤ high then some n else none
  | _ => none

/-- The natural number that the value is, if it is at most `limit`. -/
def asNat? (limit : Nat) : Json → Option Nat
  | .number (.integer (.ofNat n)) => if n ≤ limit then some n else none
  | _ => none

/-- The members of an object whose value is present. -/
def ofFields (fields : List (String × Option Json)) : Json :=
  .object (fields.filterMap fun (k, v) => v.map (k, ·))

/-- A value that may be absent: `null` counts as absent. -/
def present : Option Json → Option Json
  | some .null => none
  | v => v

mutual

/-- The same value with the keys of every object in increasing order. -/
def sorted : Json → Json
  | .array elements => .array (sortedElements elements)
  | .object members => .object (Dictionary.ofList (sortedMembers members))
  | v => v

def sortedElements : List Json → List Json
  | [] => []
  | v :: rest => sorted v :: sortedElements rest

def sortedMembers : List (String × Json) → List (String × Json)
  | [] => []
  | (k, v) :: rest => (k, sorted v) :: sortedMembers rest

end

mutual

/-- How deep arrays and objects stand in each other. -/
def depth : Json → Nat
  | .array elements => depthElements elements + 1
  | .object members => depthMembers members + 1
  | _ => 0

def depthElements : List Json → Nat
  | [] => 0
  | v :: rest => max (depth v) (depthElements rest)

def depthMembers : List (String × Json) → Nat
  | [] => 0
  | (_, v) :: rest => max (depth v) (depthMembers rest)

end

@[simp] theorem present_none : present none = none := rfl

@[simp] theorem sorted_null : null.sorted = null := rfl

@[simp] theorem sorted_number (n : Number) : (number n).sorted = number n := rfl

@[simp] theorem sorted_string (s : String) : (string s).sorted = string s := rfl

theorem sortedElements_eq_map (vs : List Json) : sortedElements vs = vs.map sorted := by
  induction vs with
  | nil => rfl
  | cons v vs ih => simp [sortedElements, ih]

theorem sortedMembers_eq_map (ms : List (String × Json)) :
    sortedMembers ms = ms.map fun m => (m.1, m.2.sorted) := by
  induction ms with
  | nil => rfl
  | cons m ms ih => simp [sortedMembers, ih]

theorem depth_le_depthElements {v : Json} {vs : List Json} (h : v ∈ vs) :
    v.depth ≤ depthElements vs := by
  induction vs with
  | nil => cases h
  | cons w vs ih =>
    rcases List.mem_cons.1 h with rfl | h
    · exact Nat.le_max_left _ _
    · exact Nat.le_trans (ih h) (Nat.le_max_right _ _)

theorem depth_le_depthMembers {m : String × Json} {ms : List (String × Json)} (h : m ∈ ms) :
    m.2.depth ≤ depthMembers ms := by
  induction ms with
  | nil => cases h
  | cons n ms ih =>
    rcases List.mem_cons.1 h with rfl | h
    · exact Nat.le_max_left _ _
    · exact Nat.le_trans (ih h) (Nat.le_max_right _ _)

end Json

end CallHierarchy
