import CommandRouter.Guild.Settings
import CommandRouter.Proofs.Guild.Decoding
import CommandRouter.Proofs.Json
import CommandRouter.Proofs.Labels

/-!
# Settings that are stored and read again

What is stored of a guild is read back as it was. The maps of settings are lower-cased when the
settings are made, once more when a column is decoded, and once more when the decoded maps become
settings. None of this changes anything after the first time, because a lower case is its own lower
case: keys that were different stay so, none becomes empty, and no two of them merge.

A row may hold anything in its columns, and other settings may come out of it than were meant. But
they are settled after one decoding: storing them and reading them again gives the same settings.

## Main definitions

* `GuildSettings.HasLowerKeys` says that the keys of a map are in the form in which they are looked
  up.
* `GuildSettings.IsTextual` says that the id and the maps of settings stand for texts.

## Main results

* `GuildSettings.hasLowerKeys_lowerKeys` and `GuildSettings.lowerKeys_eq_self` say that lower-casing
  the keys of a map twice is doing it once.
* `GuildSettings.columnMap_writeTable` is the round trip of a map through its column.
* `GuildSettings.ofRow_toRecord_eq_ok` is the round trip of settings.
-/

namespace CommandRouter

namespace GuildSettings

/-! ### Lower-case keys -/

/-- Whether the keys of a map are not empty and are their own lower cases. -/
def HasLowerKeys (table : Table Label Value) : Prop :=
  ∀ entry ∈ table.toList, entry.1.isEmpty = false ∧ entry.1.lowered = entry.1

theorem hasLowerKeys_lowerKeys (table : Table Label Value) : HasLowerKeys (lowerKeys table) := by
  intro entry hentry
  obtain ⟨origin, horigin, rfl⟩ := List.mem_map.1 (Table.mem_of_mem_toList_ofList hentry)
  have present := (List.mem_filter.1 horigin).2
  exact ⟨by simpa using present, origin.1.lowered_lowered⟩

/-- Keys that are their own lower cases are left as they are. -/
theorem lowerKeys_eq_self {table : Table Label Value} (h : HasLowerKeys table) :
    lowerKeys table = table := by
  have kept : (table.toList.filter fun entry => !entry.1.isEmpty) = table.toList := by
    rw [List.filter_eq_self]
    intro entry hentry
    simpa using (h entry hentry).1
  have same : (table.toList.map fun entry => (entry.1.lowered, entry.2)) = table.toList := by
    calc (table.toList.map fun entry => (entry.1.lowered, entry.2))
        = table.toList.map fun entry => entry :=
          List.map_congr_left fun entry hentry => by rw [(h entry hentry).2]
      _ = table.toList := List.map_id' _
  rw [lowerKeys, kept, same, Table.ofList_toList]

/-! ### Texts -/

/-- Whether the keys and the values of a map are texts. -/
def HasTexts (table : Table Label Value) : Prop :=
  ∀ entry ∈ table.toList, Json.IsTextual entry

/-- Whether the id and the maps of settings stand for texts. -/
structure IsTextual (settings : GuildSettings) : Prop where
  /-- The id is a text. -/
  id : ∃ text, settings.id = .text text
  /-- The prefixes are texts. -/
  prefixes : HasTexts settings.prefixes
  /-- The aliases and their targets are texts. -/
  aliases : HasTexts settings.aliases

/-- The map of settings that a table of texts is. -/
def mapOfTexts (table : Table String String) : Table Label Value :=
  .ofList (table.toList.map fun entry => (.text entry.1, .text entry.2))

/-- The settings of a guild that are made of texts. -/
def ofTexts (id : String) (prefixes aliases : Table String String) : GuildSettings :=
  normalized (.text id) (mapOfTexts prefixes) (mapOfTexts aliases)

theorem hasTexts_mapOfTexts (table : Table String String) : HasTexts (mapOfTexts table) := by
  intro entry hentry
  obtain ⟨origin, -, rfl⟩ := List.mem_map.1 (Table.mem_of_mem_toList_ofList hentry)
  exact ⟨⟨origin.1, rfl⟩, origin.2, rfl⟩

/-- Lower-casing the keys of a map leaves its values, and its keys are texts as before. -/
theorem HasTexts.lowerKeys {table : Table Label Value} (h : HasTexts table) :
    HasTexts (lowerKeys table) := by
  intro entry hentry
  obtain ⟨origin, horigin, rfl⟩ := List.mem_map.1 (Table.mem_of_mem_toList_ofList hentry)
  obtain ⟨⟨key, isKey⟩, text⟩ := h origin (List.mem_filter.1 horigin).1
  exact ⟨⟨lower key, by rw [isKey, Label.lowered_text]⟩, text⟩

/-! ### Columns -/

/-- Pairs of texts with lower-case keys are decoded as they are. -/
theorem shownPairs_map {entries : List (Label × Value)}
    (lowered : ∀ entry ∈ entries, entry.1.isEmpty = false ∧ entry.1.lowered = entry.1)
    (texts : ∀ entry ∈ entries, Json.IsTextual entry) :
    shownPairs (entries.map fun entry => (entry.1.toValue, entry.2)) = .ok entries := by
  induction entries with
  | nil => rfl
  | cons entry later ih =>
    obtain ⟨⟨present, same⟩, lowered'⟩ := List.forall_mem_cons.1 lowered
    obtain ⟨⟨⟨key, isKey⟩, text, isText⟩, texts'⟩ := List.forall_mem_cons.1 texts
    obtain ⟨_, _⟩ := entry
    cases isKey
    cases isText
    have truthy : (Value.text key).truthy = true := by
      simpa [Value.truthy, Label.isEmpty] using present
    rw [List.map_cons, shownPairs, Label.toValue_text, if_pos truthy, Label.ofShown_text, ok_bind,
      Value.shown_text, ok_bind, ih lowered' texts', ok_bind, same]
    rfl

/-- The map that was written to a column is the map that the column holds. -/
theorem columnMap_writeTable (room : Room) {table : Table Label Value}
    (lowered : HasLowerKeys table) (texts : HasTexts table) :
    columnMap room (.text (Json.writeTable table)) = .ok table := by
  have written : (Json.writeTable table).isEmpty = false := by
    rw [Bool.eq_false_iff, Ne, String.isEmpty_iff, ← String.toList_inj, Json.toList_writeTable]
    simp
  have read : columnPairs room (.text (Json.writeTable table)) = .ok table.toList := by
    rw [columnPairs, written, Json.read_writeTable texts room.nesting_pos]
    exact shownPairs_map lowered texts
  rw [columnMap, read]
  exact congrArg Except.ok (Table.ofList_toList table)

/-- The settings that are read from the row that stores settings. -/
theorem ofRow_ofRecord_toRecord (room : Room) (settings : GuildSettings) :
    ofRow room (.ofRecord settings.toRecord) = do
      let id ← settings.id.shown
      let prefixes ← columnMap room (.text (Json.writeTable settings.prefixes))
      let aliases ← columnMap room (.text (Json.writeTable settings.aliases))
      return normalized id prefixes aliases := by
  obtain ⟨id, prefixes, aliases⟩ := settings.get?_toRecord
  rw [ofRow, Row.get?_ofRecord, Row.get?_ofRecord, Row.get?_ofRecord, id, prefixes, aliases]
  rfl

/-- Settings in the form in which they are looked up are read back from the row that stores them. -/
theorem ofRow_ofRecord_toRecord_of_hasLowerKeys {settings : GuildSettings}
    (textual : settings.IsTextual) (prefixes : HasLowerKeys settings.prefixes)
    (aliases : HasLowerKeys settings.aliases) (room : Room) :
    ofRow room (.ofRecord settings.toRecord) = .ok settings := by
  obtain ⟨text, id⟩ := textual.id
  rw [ofRow_ofRecord_toRecord, id, Value.shown_text, ok_bind,
    columnMap_writeTable room prefixes textual.prefixes, ok_bind,
    columnMap_writeTable room aliases textual.aliases, ok_bind, normalized,
    lowerKeys_eq_self prefixes, lowerKeys_eq_self aliases, ← id]
  rfl

/-- Whatever is read from a row is in the form in which it is looked up. -/
theorem hasLowerKeys_of_ofRow {room : Room} {row : Row} {settings : GuildSettings}
    (h : ofRow room row = .ok settings) :
    HasLowerKeys settings.prefixes ∧ HasLowerKeys settings.aliases := by
  rw [ofRow] at h
  split at h
  · cases h
  · obtain ⟨id, -, h⟩ := bind_eq_ok_iff.1 h
    obtain ⟨prefixes, -, h⟩ := bind_eq_ok_iff.1 h
    obtain ⟨aliases, -, h⟩ := bind_eq_ok_iff.1 h
    cases h
    exact ⟨hasLowerKeys_lowerKeys prefixes, hasLowerKeys_lowerKeys aliases⟩

/-- Settings that are made of texts are read back from the row that stores them. -/
theorem ofRow_toRecord_ofTexts (room : Room) (id : String)
    (prefixes aliases : Table String String) :
    ofRow room (.ofRecord (ofTexts id prefixes aliases).toRecord) =
      .ok (ofTexts id prefixes aliases) :=
  ofRow_ofRecord_toRecord_of_hasLowerKeys
    ⟨⟨id, rfl⟩, (hasTexts_mapOfTexts prefixes).lowerKeys, (hasTexts_mapOfTexts aliases).lowerKeys⟩
    (hasLowerKeys_lowerKeys _) (hasLowerKeys_lowerKeys _) room

/-- **Settings survive storage.** Settings whose id and maps are texts are read back from the row
that stores them, with the entries of the maps in their order; and whatever row settings were read
from, they are read back from the row that stores them. -/
theorem ofRow_toRecord_eq_ok (room : Room) :
    (∀ (id : String) (prefixes aliases : Table String String),
        let settings := ofTexts id prefixes aliases
        ofRow room (.ofRecord settings.toRecord) = .ok settings) ∧
      ∀ (row : Row) (settings : GuildSettings), ofRow room row = .ok settings →
        settings.IsTextual → ofRow room (.ofRecord settings.toRecord) = .ok settings := by
  constructor
  · exact ofRow_toRecord_ofTexts room
  · intro row settings read textual
    obtain ⟨prefixes, aliases⟩ := hasLowerKeys_of_ofRow read
    exact ofRow_ofRecord_toRecord_of_hasLowerKeys textual prefixes aliases room

/-- A row with two spellings of one key, under which a truth value and a text are stored. -/
def spelledTwice : Row :=
  ⟨[(.text "id", .text "7"),
    (.text "prefixes", .dict [(.text "Music", .bool true), (.text "MUSIC", .text "\u00E9😀\x22")]),
    (.text "aliases", .text "[1]")]⟩

/-- What is read from it: the last prefix, and no aliases. -/
def spelledOnce : GuildSettings :=
  ⟨.text "7", .ofList [(.text "music", .text "\u00E9😀\x22")], .empty⟩

theorem ofRow_toRecord_eq_ok_spelledTwice :
    ofRow .flat spelledTwice = .ok spelledOnce ∧ spelledOnce.IsTextual ∧
      ofRow .flat (.ofRecord spelledOnce.toRecord) = .ok spelledOnce := by
  have read : ofRow .flat spelledTwice = .ok spelledOnce := rfl
  have textual : spelledOnce.IsTextual := by
    refine ⟨⟨"7", rfl⟩, ?_, ?_⟩
    · intro entry held
      obtain rfl := List.mem_singleton.1 held
      exact ⟨⟨_, rfl⟩, _, rfl⟩
    · simp [HasTexts, spelledOnce]
  exact ⟨read, textual, (ofRow_toRecord_eq_ok _).2 _ _ read textual⟩

end GuildSettings

end CommandRouter
