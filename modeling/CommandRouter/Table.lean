/-!
# Tables in insertion order

A table maps keys to values and remembers the order in which its keys were first inserted.
Inserting under a key that is present keeps the place of the key and replaces its value.

## Order and distinctness

The maps of a guild, the command table and the published status are all shown in the order in
which they grew, so the order is part of the value: two tables with the same entries in different
orders differ. That no key occurs twice is part of the type. A look-up may therefore stop at the
first hit, and the list of the entries says everything about a table; `Table.Lemmas` has the laws.

## Main definitions

* `Table` is a list of entries with distinct keys.
* `Table.get?`, `Table.insert`, `Table.erase` and `Table.ofList` read and build tables.
* `Table.filter`, `Table.mapEntries` and `Table.mapValues` keep the order of the entries.

## Main results

* `Table.keys_insertEntry` says which keys an insertion leaves.
-/

namespace CommandRouter

universe u v w

variable {κ : Type u} {α : Type v} {β : Type w}

/-- A finite map that remembers the order in which its keys were first inserted. -/
structure Table (κ : Type u) (α : Type v) where
  /-- The entries, oldest key first. -/
  entries : List (κ × α)
  /-- No key occurs twice. -/
  nodup_keys : (entries.map Prod.fst).Nodup
  deriving DecidableEq

namespace Table

/-- The table without entries. -/
def empty : Table κ α := ⟨[], List.nodup_nil⟩

instance : Inhabited (Table κ α) := ⟨empty⟩

/-- The entries of a table, oldest key first. -/
def toList (t : Table κ α) : List (κ × α) := t.entries

/-- The keys of a table, oldest first. -/
def keys (t : Table κ α) : List κ := t.entries.map Prod.fst

/-- The values of a table, in the order of their keys. -/
def values (t : Table κ α) : List α := t.entries.map Prod.snd

/-- The number of keys of a table. -/
def size (t : Table κ α) : Nat := t.entries.length

/-- Whether a table has no entries. -/
def isEmpty (t : Table κ α) : Bool := t.entries.isEmpty

section Lookup

variable [DecidableEq κ]

/-- The value of the first entry with a key. -/
def lookupEntry (key : κ) : List (κ × α) → Option α
  | [] => none
  | entry :: rest => if entry.1 = key then some entry.2 else lookupEntry key rest

/-- The value under a key. -/
def get? (t : Table κ α) (key : κ) : Option α := lookupEntry key t.entries

/-- Whether a key is present. -/
def contains (t : Table κ α) (key : κ) : Bool := (t.get? key).isSome

/-! ### Insertion -/

/-- The entries with a value under a key, in the place of the key if it is present and at the
end otherwise. -/
def insertEntry (key : κ) (value : α) : List (κ × α) → List (κ × α)
  | [] => [(key, value)]
  | entry :: rest =>
    if entry.1 = key then (entry.1, value) :: rest else entry :: insertEntry key value rest

theorem keys_insertEntry (key : κ) (value : α) (entries : List (κ × α)) :
    (insertEntry key value entries).map Prod.fst =
      if key ∈ entries.map Prod.fst then entries.map Prod.fst
      else entries.map Prod.fst ++ [key] := by
  induction entries with
  | nil => simp [insertEntry]
  | cons entry rest ih =>
    by_cases h : entry.1 = key
    · simp [insertEntry, h]
    · simp only [insertEntry, h, if_false, List.map_cons, ih, List.mem_cons, Ne.symm h, false_or]
      split <;> simp

theorem nodup_insertEntry (key : κ) (value : α) {entries : List (κ × α)}
    (h : (entries.map Prod.fst).Nodup) :
    ((insertEntry key value entries).map Prod.fst).Nodup := by
  rw [keys_insertEntry]
  split
  · exact h
  · rename_i absent
    exact List.nodup_append.2 ⟨h, by simp, fun a ha b hb => by
      simp only [List.mem_singleton] at hb
      rintro rfl
      exact absent (hb ▸ ha)⟩

/-- The table with a value under a key. -/
def insert (t : Table κ α) (key : κ) (value : α) : Table κ α :=
  ⟨insertEntry key value t.entries, nodup_insertEntry key value t.nodup_keys⟩

/-- The table that results from inserting pairs one after another. -/
def ofList (pairs : List (κ × α)) : Table κ α :=
  pairs.foldl (fun t pair => t.insert pair.1 pair.2) empty

end Lookup

/-! ### Removal and mapping -/

/-- The table with only the entries that satisfy a condition. -/
def filter (t : Table κ α) (p : κ → α → Bool) : Table κ α :=
  ⟨t.entries.filter fun entry => p entry.1 entry.2,
    (List.filter_sublist.map Prod.fst).nodup t.nodup_keys⟩

/-- The table without a key. -/
def erase [DecidableEq κ] (t : Table κ α) (key : κ) : Table κ α :=
  t.filter fun k _ => decide (k ≠ key)

/-- The table with a function of its keys and values in place of the values. -/
def mapEntries (f : κ → α → β) (t : Table κ α) : Table κ β :=
  ⟨t.entries.map fun entry => (entry.1, f entry.1 entry.2),
    by rw [List.map_map]; exact t.nodup_keys⟩

/-- The table with a function applied to its values. -/
def mapValues (f : α → β) (t : Table κ α) : Table κ β :=
  t.mapEntries fun _ => f

end Table

end CommandRouter
