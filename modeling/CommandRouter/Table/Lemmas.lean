import CommandRouter.Table

/-!
# Reading a table after writing it

For every way to make a table there is a lemma for each way to look at it: by key, as the list
of its entries, and by the order of its keys.

## Main results

* `Table.mem_toList_iff` ties the list of entries to the look-up by key.
* `Table.get?_insert`, `Table.get?_erase` and `Table.get?_mapValues` are the read-after-write laws.
* `Table.toList_insert_of_get?_eq_none` says that a new key goes to the end.
-/

namespace CommandRouter

universe u v w

namespace Table

variable {κ : Type u} {α : Type v} {β : Type w}

@[ext] theorem ext {t t' : Table κ α} (h : t.toList = t'.toList) : t = t' := by
  cases t
  cases t'
  exact (mk.injEq ..).mpr h

@[simp] theorem toList_empty : (empty : Table κ α).toList = [] := rfl

@[simp] theorem keys_eq (t : Table κ α) : t.keys = t.toList.map Prod.fst := rfl

@[simp] theorem values_eq (t : Table κ α) : t.values = t.toList.map Prod.snd := rfl

@[simp] theorem size_eq (t : Table κ α) : t.size = t.toList.length := rfl

@[simp] theorem toList_filter (t : Table κ α) (p : κ → α → Bool) :
    (t.filter p).toList = t.toList.filter fun entry => p entry.1 entry.2 := rfl

theorem mem_values_of_mem_values_filter {t : Table κ α} {p : κ → α → Bool} {a : α}
    (h : a ∈ (t.filter p).values) : a ∈ t.values := by
  obtain ⟨entry, hentry, rfl⟩ := List.mem_map.1 h
  exact List.mem_map.2 ⟨entry, (List.mem_filter.1 hentry).1, rfl⟩

@[simp] theorem toList_mapValues (f : α → β) (t : Table κ α) :
    (t.mapValues f).toList = t.toList.map fun entry => (entry.1, f entry.2) := rfl

/-- Two entries with the same key have the same value. -/
theorem eq_of_mem_toList {t : Table κ α} {key : κ} {a b : α} (ha : (key, a) ∈ t.toList)
    (hb : (key, b) ∈ t.toList) : a = b := by
  obtain ⟨entries, nodup⟩ := t
  simp only [toList] at ha hb
  induction entries with
  | nil => cases ha
  | cons entry rest ih =>
    rw [List.map_cons, List.nodup_cons] at nodup
    rcases List.mem_cons.1 ha with rfl | later
    · rcases List.mem_cons.1 hb with h | later
      · exact (Prod.mk.inj h).2.symm
      · exact absurd (List.mem_map.2 ⟨_, later, rfl⟩) nodup.1
    · rcases List.mem_cons.1 hb with rfl | later'
      · exact absurd (List.mem_map.2 ⟨_, later, rfl⟩) nodup.1
      · exact ih nodup.2 later later'

section Lookup

variable [DecidableEq κ]

/-! ### Looking up -/

@[simp] theorem get?_empty (key : κ) : (empty : Table κ α).get? key = none := rfl

theorem mem_of_lookupEntry {key : κ} {a : α} {entries : List (κ × α)}
    (h : lookupEntry key entries = some a) : (key, a) ∈ entries := by
  induction entries with
  | nil => cases h
  | cons entry rest ih =>
    rw [lookupEntry] at h
    split at h
    · rename_i same
      cases h
      exact List.mem_cons.2 (Or.inl (by rw [← same]))
    · exact List.mem_cons_of_mem _ (ih h)

theorem lookupEntry_eq_none {key : κ} {entries : List (κ × α)} :
    lookupEntry key entries = none ↔ key ∉ entries.map Prod.fst := by
  induction entries with
  | nil => simp [lookupEntry]
  | cons entry rest ih =>
    rw [lookupEntry, List.map_cons, List.mem_cons]
    split
    · rename_i same
      simp [same]
    · rename_i differ
      simp [ih, Ne.symm differ]

theorem get?_eq_none_iff {t : Table κ α} {key : κ} : t.get? key = none ↔ key ∉ t.keys :=
  lookupEntry_eq_none

/-- An entry is in the list exactly if it is what its key looks up. -/
theorem mem_toList_iff {t : Table κ α} {key : κ} {a : α} :
    (key, a) ∈ t.toList ↔ t.get? key = some a := by
  refine ⟨fun h => ?_, mem_of_lookupEntry⟩
  cases found : t.get? key with
  | none => exact absurd (List.mem_map.2 ⟨_, h, rfl⟩) (get?_eq_none_iff.1 found)
  | some b => rw [eq_of_mem_toList h (mem_of_lookupEntry found)]

/-! ### Insertion -/

theorem lookupEntry_insertEntry (key key' : κ) (a : α) (entries : List (κ × α)) :
    lookupEntry key' (insertEntry key a entries) =
      if key = key' then some a else lookupEntry key' entries := by
  induction entries with
  | nil => simp [insertEntry, lookupEntry]
  | cons entry rest ih =>
    rw [insertEntry]
    split
    · rename_i same
      subst same
      by_cases h : entry.1 = key' <;> simp [lookupEntry, h]
    · rename_i differ
      rw [lookupEntry, lookupEntry, ih]
      by_cases h : entry.1 = key'
      · subst h
        simp [Ne.symm differ]
      · simp [h]

/-- A key looks up what was last inserted under it. -/
theorem get?_insert (t : Table κ α) (key key' : κ) (a : α) :
    (t.insert key a).get? key' = if key = key' then some a else t.get? key' :=
  lookupEntry_insertEntry key key' a t.entries

@[simp] theorem get?_insert_self (t : Table κ α) (key : κ) (a : α) :
    (t.insert key a).get? key = some a := by
  simp [get?_insert]

theorem get?_insert_of_ne (t : Table κ α) {key key' : κ} (a : α) (h : key ≠ key') :
    (t.insert key a).get? key' = t.get? key' := by
  simp [get?_insert, h]

theorem insertEntry_of_not_mem {key : κ} {a : α} {entries : List (κ × α)}
    (h : key ∉ entries.map Prod.fst) : insertEntry key a entries = entries ++ [(key, a)] := by
  induction entries with
  | nil => rfl
  | cons entry rest ih =>
    rw [List.map_cons, List.mem_cons, not_or] at h
    rw [insertEntry, if_neg (Ne.symm h.1), ih h.2, List.cons_append]

/-- A new key goes to the end. -/
theorem toList_insert_of_get?_eq_none {t : Table κ α} {key : κ} (a : α)
    (h : t.get? key = none) : (t.insert key a).toList = t.toList ++ [(key, a)] :=
  insertEntry_of_not_mem (get?_eq_none_iff.1 h)

theorem keys_insert (t : Table κ α) (key : κ) (a : α) :
    (t.insert key a).keys = if key ∈ t.keys then t.keys else t.keys ++ [key] :=
  keys_insertEntry key a t.entries

/-- The entries after an insertion are the new one and old ones. -/
theorem eq_or_mem_of_mem_toList_insert {t : Table κ α} {key : κ} {a : α} {entry : κ × α}
    (h : entry ∈ (t.insert key a).toList) : entry = (key, a) ∨ entry ∈ t.toList := by
  obtain ⟨key', b⟩ := entry
  have found := mem_toList_iff.1 h
  rw [get?_insert] at found
  split at found
  · rename_i same
    rw [same, Option.some.inj found]
    exact Or.inl rfl
  · exact Or.inr (mem_toList_iff.2 found)

/-- The values after an insertion are the new one and old ones. -/
theorem eq_or_mem_of_mem_values_insert {t : Table κ α} {key : κ} {a b : α}
    (h : b ∈ (t.insert key a).values) : b = a ∨ b ∈ t.values := by
  obtain ⟨entry, hentry, rfl⟩ := List.mem_map.1 h
  rcases eq_or_mem_of_mem_toList_insert hentry with rfl | old
  · exact Or.inl rfl
  · exact Or.inr (List.mem_map.2 ⟨entry, old, rfl⟩)

@[simp] theorem ofList_nil : ofList ([] : List (κ × α)) = empty := rfl

/-- The last pair is inserted last. -/
theorem ofList_append_singleton (pairs : List (κ × α)) (pair : κ × α) :
    ofList (pairs ++ [pair]) = (ofList pairs).insert pair.1 pair.2 :=
  List.foldl_append

/-- New keys go to the end one after another. -/
theorem toList_foldl_insert {t : Table κ α} {pairs : List (κ × α)}
    (distinct : ((t.toList ++ pairs).map Prod.fst).Nodup) :
    (pairs.foldl (fun t pair => t.insert pair.1 pair.2) t).toList = t.toList ++ pairs := by
  induction pairs generalizing t with
  | nil => rw [List.foldl_nil, List.append_nil]
  | cons pair later ih =>
    have new : t.get? pair.1 = none := by
      rw [get?_eq_none_iff, keys_eq]
      intro old
      rw [List.map_append, List.map_cons, List.nodup_append] at distinct
      exact distinct.2.2 _ old _ List.mem_cons_self rfl
    have grown := toList_insert_of_get?_eq_none pair.2 new
    rw [List.append_cons, ← grown] at distinct
    rw [List.foldl_cons, ih distinct, grown, List.append_assoc, List.singleton_append]

/-- A list with distinct keys is the list of the table that is made of it. -/
theorem toList_ofList_of_nodup {pairs : List (κ × α)} (distinct : (pairs.map Prod.fst).Nodup) :
    (ofList pairs).toList = pairs :=
  toList_foldl_insert (t := empty) distinct

@[simp] theorem ofList_toList (t : Table κ α) : ofList t.toList = t :=
  ext (toList_ofList_of_nodup t.nodup_keys)

/-- The keys of a table and its values make up the table again. -/
theorem ofList_zip_keys_values (t : Table κ α) : ofList (t.keys.zip t.values) = t := by
  have zipped : t.keys.zip t.values = t.toList := (List.zip_of_prod (keys_eq t).symm rfl).symm
  rw [zipped, ofList_toList]

/-- The keys of the table that is made of a list are those of the list. -/
theorem mem_keys_ofList {pairs : List (κ × α)} {key : κ} :
    key ∈ (ofList pairs).keys ↔ key ∈ pairs.map Prod.fst := by
  have inserted (t : Table κ α) :
      key ∈ (pairs.foldl (fun t pair => t.insert pair.1 pair.2) t).keys ↔
        key ∈ t.keys ∨ key ∈ pairs.map Prod.fst := by
    induction pairs generalizing t with
    | nil => simp
    | cons pair later ih =>
      rw [List.foldl_cons, ih, keys_insert, List.map_cons, List.mem_cons]
      split
      · rename_i old
        exact ⟨fun h => h.imp_right .inr, fun h => h.elim .inl fun h => h.elim
          (fun same => .inl (same ▸ old)) .inr⟩
      · simp [or_assoc]
  exact (inserted empty).trans (by simp)

/-- The entries of a table that pairs are inserted into come from the pairs or are old ones. -/
theorem mem_or_mem_of_foldl_insert {pairs : List (κ × α)} {t : Table κ α} {entry : κ × α}
    (h : entry ∈ (pairs.foldl (fun t pair => t.insert pair.1 pair.2) t).toList) :
    entry ∈ pairs ∨ entry ∈ t.toList := by
  induction pairs generalizing t with
  | nil => exact Or.inr h
  | cons pair later ih =>
    rcases ih h with new | old
    · exact Or.inl (List.mem_cons_of_mem _ new)
    · rcases eq_or_mem_of_mem_toList_insert old with rfl | old
      · exact Or.inl List.mem_cons_self
      · exact Or.inr old

/-- The entries of a table that is made of pairs are among the pairs. -/
theorem mem_of_mem_toList_ofList {pairs : List (κ × α)} {entry : κ × α}
    (h : entry ∈ (ofList pairs).toList) : entry ∈ pairs := by
  rcases mem_or_mem_of_foldl_insert h with new | old
  · exact new
  · cases old

/-- The values of a table that is made of pairs come from the pairs. -/
theorem exists_mem_of_mem_values_ofList {pairs : List (κ × α)} {a : α}
    (h : a ∈ (ofList pairs).values) : ∃ pair ∈ pairs, pair.2 = a := by
  obtain ⟨entry, hentry, rfl⟩ := List.mem_map.1 h
  exact ⟨entry, mem_of_mem_toList_ofList hentry, rfl⟩

/-! ### Removal and mapping -/

theorem get?_erase (t : Table κ α) (key key' : κ) :
    (t.erase key).get? key' = if key = key' then none else t.get? key' := by
  obtain ⟨entries, nodup⟩ := t
  show lookupEntry key' (entries.filter fun entry => decide (entry.1 ≠ key)) =
    if key = key' then none else lookupEntry key' entries
  clear nodup
  induction entries with
  | nil => simp [lookupEntry]
  | cons entry rest ih =>
    by_cases h : entry.1 = key
    · subst h
      rw [List.filter_cons_of_neg (by simp), ih]
      by_cases h' : entry.1 = key' <;> simp [lookupEntry, h']
    · rw [List.filter_cons_of_pos (by simpa using h), lookupEntry, lookupEntry, ih]
      by_cases h' : entry.1 = key'
      · subst h'
        simp [Ne.symm h]
      · simp [h']

@[simp] theorem get?_erase_self (t : Table κ α) (key : κ) : (t.erase key).get? key = none := by
  simp [get?_erase]

theorem get?_filter (t : Table κ α) (p : κ → α → Bool) (key : κ) :
    (t.filter p).get? key = (t.get? key).filter (p key) := by
  refine Option.ext fun a => ?_
  rw [← mem_toList_iff, toList_filter, List.mem_filter, mem_toList_iff, Option.filter_eq_some_iff]

theorem get?_mapEntries (f : κ → α → β) (t : Table κ α) (key : κ) :
    (t.mapEntries f).get? key = (t.get? key).map (f key) := by
  obtain ⟨entries, nodup⟩ := t
  show lookupEntry key (entries.map fun entry => (entry.1, f entry.1 entry.2)) =
    (lookupEntry key entries).map (f key)
  clear nodup
  induction entries with
  | nil => rfl
  | cons entry rest ih =>
    simp only [List.map_cons, lookupEntry, ih]
    split
    · rename_i same
      rw [same]
      rfl
    · rfl

theorem get?_mapValues (f : α → β) (t : Table κ α) (key : κ) :
    (t.mapValues f).get? key = (t.get? key).map f :=
  get?_mapEntries (fun _ => f) t key

end Lookup

end Table

end CommandRouter
