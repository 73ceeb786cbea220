/-!
# Tables in insertion order

A table is a list of entries under text keys. Writing to a key that is present keeps its place and
replaces its value; writing to a new key adds an entry at the end. So the keys of a table built by
writes are distinct and stand in the order of their first write.

The statements below are the view of a table through `get?`: what a write answers, and which keys it
leaves.
-/

namespace TypedQuery

/-- Entries under text keys. -/
abbrev Table (α : Type _) := List (String × α)

namespace Table

variable {α : Type _}

/-- The value of the first entry under a key. -/
def get? (key : String) : Table α → Option α
  | [] => none
  | (k, value) :: rest => if k = key then some value else get? key rest

/-- Whether a key has an entry. -/
def has (table : Table α) (key : String) : Bool := (get? key table).isSome

/-- Writes a value under a key. -/
def set (key : String) (value : α) : Table α → Table α
  | [] => [(key, value)]
  | (k, old) :: rest => if k = key then (k, value) :: rest else (k, old) :: set key value rest

/-- The keys in order. -/
def keys (table : Table α) : List String := table.map Prod.fst

/-- The values in order. -/
def values (table : Table α) : List α := table.map Prod.snd

/-- The table that a list of writes leaves, the first one first. -/
def ofWrites (writes : List (String × α)) : Table α :=
  writes.foldl (fun table write => set write.1 write.2 table) []

@[simp] theorem get?_nil (key : String) : get? key ([] : Table α) = none := rfl

theorem get?_cons (key k : String) (value : α) (rest : Table α) :
    get? key ((k, value) :: rest) = if k = key then some value else get? key rest := rfl

/-- A write is read back under its own key, and every other key reads as before. -/
theorem get?_set (key other : String) (value : α) (table : Table α) :
    get? other (set key value table) = if key = other then some value else get? other table := by
  induction table with
  | nil => simp [set, get?_cons]
  | cons entry rest ih =>
    obtain ⟨k, old⟩ := entry
    by_cases hk : k = key
    · subst hk
      by_cases ho : k = other <;> simp [set, get?_cons, ho]
    · by_cases ho : k = other
      · subst ho
        simp [set, get?_cons, hk, Ne.symm hk]
      · simp [set, get?_cons, hk, ho, ih]

/-- A write to a new key adds it at the end, and a write to a present key leaves the keys alone. -/
theorem keys_set (key : String) (value : α) (table : Table α) :
    keys (set key value table) = if table.has key then keys table else keys table ++ [key] := by
  induction table with
  | nil => simp [set, keys, has]
  | cons entry rest ih =>
    obtain ⟨k, old⟩ := entry
    by_cases hk : k = key
    · subst hk
      simp [set, keys, has, get?_cons]
    · simp only [keys, has] at ih
      by_cases h : (get? key rest).isSome = true
      · simp [set, keys, has, get?_cons, hk, h, ih]
      · simp [set, keys, has, get?_cons, hk, h, ih]

end Table

end TypedQuery
