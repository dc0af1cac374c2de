/-!
# Tables

Values under keys, in the order in which the keys were first written: a key that is written
again keeps its place. No key occurs twice.

Main statements: `get?_put`, `get?_erase` (what a look-up finds after a change), `keys_put`,
`erase_put` (a new key that is dropped again).
-/
namespace SheetPricing

/-- Values under distinct keys. -/
structure Table (κ α : Type) where
  entries : List (κ × α)
  distinct : (entries.map Prod.fst).Nodup
  deriving DecidableEq

namespace Table

variable {κ α β : Type}

def empty : Table κ α := ⟨[], List.nodup_nil⟩

instance : Inhabited (Table κ α) := ⟨empty⟩

def keys (table : Table κ α) : List κ := table.entries.map Prod.fst

def size (table : Table κ α) : Nat := table.entries.length

/-- The same keys with other values. -/
def map (f : α → β) (table : Table κ α) : Table κ β :=
  ⟨table.entries.map fun entry => (entry.1, f entry.2), by
    have same : ((table.entries.map fun entry => (entry.1, f entry.2)).map Prod.fst)
        = table.entries.map Prod.fst := by simp
    rw [same]; exact table.distinct⟩

theorem eq_of_entries {table other : Table κ α} (same : table.entries = other.entries) :
    table = other := by
  cases table
  cases other
  cases same
  rfl

variable [DecidableEq κ]

/-- The value under a key. -/
def get? (table : Table κ α) (key : κ) : Option α := table.entries.lookup key

def contains (table : Table κ α) (key : κ) : Bool := (table.get? key).isSome

/-- The entries with the value of one key replaced. -/
def replaced (key : κ) (value : α) (entries : List (κ × α)) : List (κ × α) :=
  entries.map fun entry => if entry.1 = key then (key, value) else entry

theorem map_fst_replaced (key : κ) (value : α) (entries : List (κ × α)) :
    (replaced key value entries).map Prod.fst = entries.map Prod.fst := by
  simp only [replaced, List.map_map]
  apply List.map_congr_left
  intro entry _
  by_cases same : entry.1 = key <;> simp [same]

/-- Write a value under a key: in the place of the key if it is there, at the end otherwise. -/
def put (table : Table κ α) (key : κ) (value : α) : Table κ α :=
  if present : key ∈ table.keys then
    ⟨replaced key value table.entries, by rw [map_fst_replaced]; exact table.distinct⟩
  else
    ⟨table.entries ++ [(key, value)], by
      rw [List.map_append, List.nodup_append]
      refine ⟨table.distinct, by simp, ?_⟩
      intro a held b new same
      simp only [List.map_cons, List.map_nil, List.mem_singleton] at new
      exact present (new ▸ same ▸ held)⟩

/-- Drop a key with its value. -/
def erase (table : Table κ α) (key : κ) : Table κ α :=
  ⟨table.entries.filter (·.1 != key),
    (List.Sublist.map Prod.fst List.filter_sublist).nodup table.distinct⟩

/-- Write entries one after another. -/
def putAll (table : Table κ α) (entries : List (κ × α)) : Table κ α :=
  entries.foldl (fun table entry => table.put entry.1 entry.2) table

/-- Write entries one after another into an empty table. -/
def ofList (entries : List (κ × α)) : Table κ α := empty.putAll entries

theorem lookup_cons (other : κ) (entry : κ × α) (rest : List (κ × α)) :
    (entry :: rest).lookup other = if other = entry.1 then some entry.2 else rest.lookup other := by
  rw [List.lookup_cons]
  by_cases hit : other = entry.1
  · rw [beq_iff_eq.mpr hit, if_pos hit]
  · rw [beq_eq_false_iff_ne.mpr hit, if_neg hit]

theorem lookup_replaced (key other : κ) (value : α) (entries : List (κ × α)) :
    (replaced key value entries).lookup other
      = if other = key then (entries.lookup other).map (fun _ => value)
        else entries.lookup other := by
  induction entries with
  | nil => simp [replaced]
  | cons entry rest ih =>
    simp only [replaced, List.map_cons] at ih ⊢
    rw [lookup_cons, lookup_cons, ih]
    by_cases here : entry.1 = key <;> by_cases same : other = key <;> grind

theorem lookup_eq_none_iff (key : κ) (entries : List (κ × α)) :
    entries.lookup key = none ↔ key ∉ entries.map Prod.fst := by
  induction entries with
  | nil => simp
  | cons entry rest ih =>
    rw [lookup_cons, List.map_cons, List.mem_cons, not_or]
    by_cases hit : key = entry.1
    · simp [hit]
    · rw [if_neg hit, ih]
      exact ⟨fun absent => ⟨hit, absent⟩, And.right⟩

theorem lookup_append_single (key other : κ) (value : α) (entries : List (κ × α)) :
    (entries ++ [(key, value)]).lookup other
      = ((entries.lookup other).or (if other = key then some value else none)) := by
  induction entries with
  | nil => simp [lookup_cons]
  | cons entry rest ih =>
    rw [List.cons_append, lookup_cons, lookup_cons, ih]
    by_cases hit : other = entry.1 <;> simp [hit]

theorem get?_eq_none_iff {table : Table κ α} {key : κ} :
    table.get? key = none ↔ key ∉ table.keys := lookup_eq_none_iff key table.entries

theorem mem_keys_of_get? {table : Table κ α} {key : κ} {value : α}
    (found : table.get? key = some value) : key ∈ table.keys := by
  refine Decidable.byContradiction fun absent => ?_
  rw [get?_eq_none_iff.mpr absent] at found
  cases found

@[simp] theorem get?_empty (key : κ) : (empty : Table κ α).get? key = none := rfl

/-- A look-up finds what was last written under the key. -/
theorem get?_put (table : Table κ α) (key other : κ) (value : α) :
    (table.put key value).get? other = if other = key then some value else table.get? other := by
  unfold put
  split
  · next present =>
    simp only [get?, lookup_replaced]
    by_cases same : other = key
    · subst same
      have held : table.get? other ≠ none := fun absent => (get?_eq_none_iff.mp absent) present
      obtain ⟨old, eq⟩ := Option.ne_none_iff_exists'.mp held
      simp only [get?] at eq
      simp [eq]
    · simp [same]
  · next absent =>
    simp only [get?, lookup_append_single]
    by_cases same : other = key
    · subst same
      have none : table.get? other = none := get?_eq_none_iff.mpr absent
      simp only [get?] at none
      simp [none]
    · simp [same]

/-- A new key comes last, and a key that is there keeps its place. -/
theorem keys_put (table : Table κ α) (key : κ) (value : α) :
    (table.put key value).keys = if key ∈ table.keys then table.keys else table.keys ++ [key] := by
  unfold put
  split <;> simp [keys, map_fst_replaced]

theorem mem_keys_put {table : Table κ α} {key other : κ} {value : α} :
    other ∈ (table.put key value).keys ↔ other ∈ table.keys ∨ other = key := by
  rw [keys_put]
  split
  · next present => exact ⟨.inl, fun either => either.elim id fun same => same ▸ present⟩
  · simp

/-- A look-up after a key was dropped. -/
theorem get?_erase (table : Table κ α) (key other : κ) :
    (table.erase key).get? other = if other = key then none else table.get? other := by
  simp only [erase, get?]
  induction table.entries with
  | nil => simp
  | cons entry rest ih =>
    rw [List.filter_cons, lookup_cons]
    by_cases here : entry.1 = key
    · have dropped : (entry.1 != key) = false := by simp [here]
      rw [dropped]
      simp only [Bool.false_eq_true, if_false, ih]
      by_cases same : other = key <;> simp [same, here]
    · have kept : (entry.1 != key) = true := by simp [here]
      rw [kept]
      simp only [if_true, lookup_cons, ih]
      by_cases hit : other = entry.1
      · simp [hit, here]
      · simp [hit]

theorem filter_ne_of_get?_eq_none {table : Table κ α} {key : κ}
    (absent : table.get? key = none) : table.entries.filter (·.1 != key) = table.entries := by
  rw [List.filter_eq_self]
  intro entry inside
  have missing := get?_eq_none_iff.mp absent
  exact bne_iff_ne.mpr fun same => missing (List.mem_map.mpr ⟨entry, inside, same⟩)

theorem erase_eq_self {table : Table κ α} {key : κ} (absent : table.get? key = none) :
    table.erase key = table :=
  eq_of_entries (filter_ne_of_get?_eq_none absent)

/-- A new key that is dropped again leaves the table as it was. -/
theorem erase_put {table : Table κ α} {key : κ} (absent : table.get? key = none) (value : α) :
    (table.put key value).erase key = table := by
  apply eq_of_entries
  rw [erase, put, dif_neg (get?_eq_none_iff.mp absent)]
  simp [filter_ne_of_get?_eq_none absent]

end Table
end SheetPricing
