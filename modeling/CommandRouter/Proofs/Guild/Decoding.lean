import CommandRouter.Guild.Repository
import CommandRouter.Proofs.Readings
import CommandRouter.Table.Lemmas

/-!
# What comes out of a row

A row may hold anything. Its decoding either fails or gives settings whose maps stand for strings,
because every value of a map is turned into the string that it is shown as. If it fails, the fault
is an ordinary one: a missing id, or a text beyond the limits of the reader.

## Main definitions

* `GuildSettings.WellKinded` says that the maps of a guild stand for strings.

## Main results

* `Value.ordinary_compare` and `Value.ordinary_add` are the operators on times.
* `GuildRepository.ordinary_decode` and `GuildRepository.wellKinded_of_decode` are the two halves of
  the decoding of a row.
-/

namespace CommandRouter

/-! ### Operators -/

namespace Value

theorem ordinary_compare (c : Comparison) (a b : Value) : Ordinary (compare c a b) := by
  refine compare.induct (fun a b => Ordinary (compare c a b))
    (fun xs ys => Ordinary (compareItems c xs ys)) ?_ ?_ ?_ ?_ ?_ ?_ ?_ a b
  · intro xs ys items
    rwa [compare]
  · intro a b differ m n hn hm
    rw [compare]
    · simp [hm, hn]
    · exact differ
  · intro a b differ cs ds hds hcs numberless
    rw [compare]
    · split
      · exact .of_ok _
      · simp [hcs, hds]
    · exact differ
  · intro a b differ _ _
    rw [compare]
    · split
      · exact .of_ok _
      · split
        · exact .of_ok _
        · exact Ordinary.error_iff.2 rfl
    · exact differ
  · intro x xs y ys same items
    rwa [compareItems, if_pos same]
  · intro x xs y ys differ first
    rwa [compareItems, if_neg differ]
  · intro xs ys short
    rw [compareItems]
    · exact .of_ok _
    · exact short

theorem ordinary_toBinary64 (n : Number) : Ordinary n.toBinary64 := by
  unfold Number.toBinary64
  split
  · split
    · exact Ordinary.error_iff.2 rfl
    · exact .of_ok _
  · exact .of_ok _

theorem ordinary_add (a b : Value) : Ordinary (a.add b) := by
  unfold add
  split
  · exact .of_ok _
  · exact .of_ok _
  · exact Ordinary.error_iff.2 rfl
  · split
    · refine Ordinary.map ?_
      unfold Number.add
      split
      · exact .of_ok _
      · refine (ordinary_toBinary64 _).bind fun x _ => (ordinary_toBinary64 _).bind fun y _ => ?_
        exact .of_ok _
    · split
      · exact .of_ok _
      · exact Ordinary.error_iff.2 rfl
      · exact Ordinary.error_iff.2 rfl

theorem ordinary_printed (value : Value) : Ordinary value.printed := by
  rw [printed]
  split
  · exact .of_ok _
  · exact Ordinary.error_iff.2 rfl

end Value

theorem Label.ordinary_ofShown (value : Value) : Ordinary (ofShown value) := by
  unfold ofShown
  split
  · exact .of_ok _
  · exact .of_ok _
  · exact (Value.ordinary_printed _).map

theorem Value.ordinary_shown (value : Value) : Ordinary value.shown :=
  (Label.ordinary_ofShown value).map

/-! ### Decoding -/

namespace GuildSettings

/-- Whether the prefixes and the aliases of a guild stand for strings. -/
structure WellKinded (settings : GuildSettings) : Prop where
  /-- The prefixes are strings. -/
  prefixes : ∀ custom ∈ settings.prefixes.values, custom.IsString
  /-- The targets of the aliases are strings. -/
  aliases : ∀ target ∈ settings.aliases.values, target.IsString

theorem ordinary_shownPairs (pairs : List (Value × Value)) : Ordinary (shownPairs pairs) := by
  induction pairs with
  | nil => exact .of_ok _
  | cons pair later ih =>
    obtain ⟨key, value⟩ := pair
    rw [shownPairs]
    split
    · refine (Label.ordinary_ofShown key).bind fun _ _ => ?_
      exact (Value.ordinary_shown value).bind fun _ _ => ih.bind fun _ _ => .of_ok _
    · exact ih

theorem ordinary_mapPairs (value : Value) : Ordinary (mapPairs value) := by
  unfold mapPairs
  split
  · exact ordinary_shownPairs _
  · exact .of_ok _

theorem ordinary_columnPairs (room : Room) (column : Value) :
    Ordinary (columnPairs room column) := by
  unfold columnPairs
  split
  · split
    · exact .of_ok _
    · split
      · exact ordinary_mapPairs _
      · exact .of_ok _
      · rename_i fault beyond
        exact Ordinary.error_iff.2 (Json.isOrdinary_of_read beyond)
  · exact ordinary_mapPairs _

theorem ordinary_ofRow (room : Room) (row : Row) : Ordinary (ofRow room row) := by
  rw [ofRow]
  split
  · exact Ordinary.error_iff.2 rfl
  · refine (Value.ordinary_shown _).bind fun id _ => ?_
    refine (ordinary_columnPairs _ _).map.bind fun prefixes _ => ?_
    refine (ordinary_columnPairs _ _).map.bind fun aliases _ => ?_
    exact .of_ok _

/-- The values of decoded pairs are strings. -/
theorem isString_of_shownPairs {pairs : List (Value × Value)} {shown : List (Label × Value)}
    (h : shownPairs pairs = .ok shown) : ∀ pair ∈ shown, pair.2.IsString := by
  induction pairs generalizing shown with
  | nil =>
    cases h
    simp
  | cons pair later ih =>
    obtain ⟨key, value⟩ := pair
    rw [shownPairs] at h
    split at h
    · obtain ⟨label, -, h⟩ := bind_eq_ok_iff.1 h
      obtain ⟨string, same, h⟩ := bind_eq_ok_iff.1 h
      obtain ⟨others, rest, h⟩ := bind_eq_ok_iff.1 h
      cases h
      exact List.forall_mem_cons.2 ⟨Value.isString_of_shown same, ih rest⟩
    · exact ih h

theorem isString_of_mapPairs {value : Value} {pairs : List (Label × Value)}
    (h : mapPairs value = .ok pairs) : ∀ pair ∈ pairs, pair.2.IsString := by
  unfold mapPairs at h
  split at h
  · exact isString_of_shownPairs h
  · cases h
    simp

/-- The values of a map that is read from a column are strings. -/
theorem isString_of_columnMap {room : Room} {column : Value} {map : Table Label Value}
    (h : columnMap room column = .ok map) : ∀ value ∈ map.values, value.IsString := by
  obtain ⟨pairs, read, rfl⟩ := map_eq_ok_iff.1 h
  intro value hvalue
  obtain ⟨pair, hpair, rfl⟩ := Table.exists_mem_of_mem_values_ofList hvalue
  unfold columnPairs at read
  split at read
  · split at read
    · cases read
      cases hpair
    · split at read
      · exact isString_of_mapPairs read pair hpair
      · cases read
        cases hpair
      · cases read
  · exact isString_of_mapPairs read pair hpair

theorem mem_values_of_mem_values_lowerKeys {table : Table Label Value} {value : Value}
    (h : value ∈ (lowerKeys table).values) : value ∈ table.values := by
  obtain ⟨pair, hpair, rfl⟩ := Table.exists_mem_of_mem_values_ofList h
  obtain ⟨entry, hentry, rfl⟩ := List.mem_map.1 hpair
  exact List.mem_map.2 ⟨entry, (List.mem_filter.1 hentry).1, rfl⟩

/-- The maps of settings that were read from a row stand for strings. -/
theorem wellKinded_of_ofRow {room : Room} {row : Row} {settings : GuildSettings}
    (h : ofRow room row = .ok settings) : settings.WellKinded := by
  rw [ofRow] at h
  split at h
  · cases h
  · obtain ⟨id, -, h⟩ := bind_eq_ok_iff.1 h
    obtain ⟨prefixes, hprefixes, h⟩ := bind_eq_ok_iff.1 h
    obtain ⟨aliases, haliases, h⟩ := bind_eq_ok_iff.1 h
    cases h
    constructor
    · intro custom hcustom
      exact isString_of_columnMap hprefixes custom (mem_values_of_mem_values_lowerKeys hcustom)
    · intro target htarget
      exact isString_of_columnMap haliases target (mem_values_of_mem_values_lowerKeys htarget)

/-- What a record of settings holds is what its columns hold. -/
theorem get?_toRecord (settings : GuildSettings) :
    settings.toRecord.get? "id" = some settings.id ∧
      settings.toRecord.get? "prefixes" = some (.text (Json.writeTable settings.prefixes)) ∧
      settings.toRecord.get? "aliases" = some (.text (Json.writeTable settings.aliases)) := by
  refine ⟨?_, ?_, ?_⟩ <;> exact Table.mem_toList_iff.1 (by simp [toList_toRecord])

end GuildSettings

namespace GuildRepository

theorem ordinary_decode (room : Room) (row : Option Row) : Ordinary (decode room row) := by
  cases row with
  | none => exact .of_ok none
  | some row => exact (GuildSettings.ordinary_ofRow room row).map

theorem wellKinded_of_decode {room : Room} {row : Option Row} {settings : Option GuildSettings}
    (h : decode room row = .ok settings) : ∀ s ∈ settings, s.WellKinded := by
  intro s hs
  cases row with
  | none =>
    cases h
    cases hs
  | some row =>
    obtain ⟨decoded, read, rfl⟩ := map_eq_ok_iff.1 h
    cases hs
    exact GuildSettings.wellKinded_of_ofRow read

end GuildRepository

end CommandRouter
