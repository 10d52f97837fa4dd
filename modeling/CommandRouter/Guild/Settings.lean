import CommandRouter.Json.Reader
import CommandRouter.Json.Writer
import CommandRouter.Store.Row
import CommandRouter.Value.Strings

/-!
# Guild settings

A guild may replace the prefix of each category and may define aliases for command lines. Both
maps are kept under lower-case keys and stored as JSON text in the row of the guild.

The keys of the maps are strings. The values are strings when they were read from a row, and so is
the id. Settings that are put together in another way may hold any values; then a fault arises when
a value is used, and not before. Only a key that cannot be lower-cased is a fault at once.

A string need not be a text: a stored map may have a key with half of a surrogate pair. No line and
no name of a category has one, so such an entry is never used, but it is kept and stored again.

## Main definitions

* `GuildSettings` holds the id and the two maps of a guild.
* `GuildSettings.normalized` lower-cases the keys of the maps and drops the empty one, and
  `GuildSettings.ofMaps` does so for keys that may be of any kind.
* `GuildSettings.toRecord` is the row that stores settings, and `GuildSettings.ofRow` reads a row.
* `Guild` is a guild as commands are resolved in it.

## Main results

* `GuildSettings.toList_toRecord` lists the columns of the row that stores settings.
-/

namespace CommandRouter

/-- The settings of a guild. -/
structure GuildSettings where
  /-- The id of the guild. -/
  id : Value
  /-- The guild's prefix for each category, by the lower-case name of the category. -/
  prefixes : Table Label Value
  /-- The command line that each alias stands for, by the lower-case alias. -/
  aliases : Table Label Value

namespace GuildSettings

/-- The entries of a map under lower-case keys, without empty keys. Of keys that differ only in
case the place of the first and the value of the last count. -/
def lowerKeys (table : Table Label Value) : Table Label Value :=
  .ofList ((table.toList.filter fun entry => !entry.1.isEmpty).map fun entry =>
    (entry.1.lowered, entry.2))

/-- Settings with the maps brought into the form in which they are looked up. -/
def normalized (id : Value) (prefixes aliases : Table Label Value) : GuildSettings :=
  ⟨id, lowerKeys prefixes, lowerKeys aliases⟩

/-- The pairs of a map under strings. Keys that do not count as present are dropped; any other key
must be a string. -/
def labelled : List (Value × Value) → Except Fault (List (Label × Value))
  | [] => .ok []
  | (key, value) :: later =>
    if key.truthy then do
      let key ← Label.ofString "lower" key
      return (key, value) :: (← labelled later)
    else labelled later

/-- Settings with maps whose keys may be of any kind. -/
def ofMaps (id : Value) (prefixes aliases : List (Value × Value)) : Except Fault GuildSettings := do
  let prefixes ← labelled prefixes
  let aliases ← labelled aliases
  return normalized id (.ofList prefixes) (.ofList aliases)

/-- The row that stores settings. -/
def toRecord (settings : GuildSettings) : Record :=
  .ofList [
    ("id", settings.id),
    ("prefixes", .text (Json.writeTable settings.prefixes)),
    ("aliases", .text (Json.writeTable settings.aliases))]

/-- The row that stores settings has three columns. -/
theorem toList_toRecord (settings : GuildSettings) :
    settings.toRecord.toList = [
      ("id", settings.id),
      ("prefixes", .text (Json.writeTable settings.prefixes)),
      ("aliases", .text (Json.writeTable settings.aliases))] := by
  simp [toRecord, Table.ofList, Table.insert, Table.insertEntry, Table.toList, Table.empty]

/-- The names of the columns of the row that stores settings. -/
theorem keys_toRecord (settings : GuildSettings) :
    settings.toRecord.keys = ["id", "prefixes", "aliases"] :=
  congrArg (List.map Prod.fst) (toList_toRecord settings)

/-! ### Reading a row -/

/-- The pairs of strings that the pairs of a map are decoded to. Keys that do not count as present
are dropped. A key or a value may have no text; the first that has none is reported. -/
def shownPairs : List (Value × Value) → Except Fault (List (Label × Value))
  | [] => .ok []
  | (key, value) :: later =>
    if key.truthy then do
      let key ← Label.ofShown key
      let value ← value.shown
      return (key.lowered, value) :: (← shownPairs later)
    else shownPairs later

/-- The pairs of strings that a map column holds when it is decoded; values that are not maps hold
none. -/
def mapPairs : Value → Except Fault (List (Label × Value))
  | .dict pairs => shownPairs pairs
  | _ => .ok []

/-- The pairs of strings that a map column holds. Text that breaks the grammar of JSON holds none;
text that is beyond the limits of the reader is a fault. -/
def columnPairs (room : Room) (column : Value) : Except Fault (List (Label × Value)) :=
  match column with
  | .text s =>
    if s.isEmpty then .ok []
    else
      match Json.read room.nesting s with
      | .ok value => mapPairs value
      | .error .malformed => .ok []
      | .error (.beyond fault) => .error fault
  | value => mapPairs value

/-- The map that a map column holds. -/
def columnMap (room : Room) (column : Value) : Except Fault (Table Label Value) :=
  (columnPairs room column).map .ofList

/-- The settings that a row stores. Columns for the maps may be missing. -/
def ofRow (room : Room) (row : Row) : Except Fault GuildSettings := do
  match row.get? "id" with
  | none => throw (.missingKey "id")
  | some id =>
    let id ← id.shown
    let prefixes ← columnMap room ((row.get? "prefixes").getD .null)
    let aliases ← columnMap room ((row.get? "aliases").getD .null)
    return normalized id prefixes aliases

end GuildSettings

/-! ### Guilds -/

/-- The name of the kind of a guild that is put together from maps, as messages give it. -/
def plainKind : String := "types.SimpleNamespace"

/-- A map of a guild, as far as a guild has it. -/
inductive GuildMap where
  /-- The guild has no such map. -/
  | missing
  /-- There is nothing in the place of the map. -/
  | null
  /-- The map, as pairs with distinct keys. -/
  | entries (pairs : List (Value × Value))

namespace GuildMap

/-- The pairs of a map for which a feature of maps is needed. A guild that has no such map lacks the
attribute of that name. -/
def pairsFor (map feature : String) : GuildMap → Except Fault (List (Value × Value))
  | entries pairs => .ok pairs
  | missing => .error (.lacks plainKind map)
  | null => .error (.lacks "NoneType" feature)

end GuildMap

/-- A guild as commands are resolved in it. One that is not made of settings may lack its maps; that
matters only when a prefix is looked up. -/
inductive Guild where
  /-- A guild with settings. -/
  | settled (settings : GuildSettings)
  /-- A guild that is put together from maps. -/
  | plain (prefixes aliases : GuildMap)

namespace Guild

/-- The prefix that a guild gives to a category, by the lower-case name of the category. That there
is no map is noticed before anything is wrong with the name. -/
def customPrefix? (guild : Guild) (category : Except Fault String) :
    Except Fault (Option Value) :=
  match guild with
  | settled settings => category.map fun name => settings.prefixes.get? (.text name)
  | plain prefixes _ => do
    let pairs ← prefixes.pairsFor "prefixes" "get"
    return Value.lookupText (← category) pairs

/-- The aliases of a guild and what they stand for, in order. -/
def aliasPairs : Guild → List (Value × Value)
  | settled settings => settings.aliases.toList.map fun entry => (entry.1.toValue, entry.2)
  | plain _ (.entries pairs) => pairs
  | plain _ _ => []

/-- The prefixes and the aliases of a guild, which must have both. -/
def maps : Guild → Except Fault (List (Value × Value) × List (Value × Value))
  | settled settings =>
    .ok (settings.prefixes.toList.map fun entry => (entry.1.toValue, entry.2),
      settings.aliases.toList.map fun entry => (entry.1.toValue, entry.2))
  | plain prefixes aliases => do
    let prefixes ← prefixes.pairsFor "prefixes" "items"
    return (prefixes, ← aliases.pairsFor "aliases" "items")

/-- The settings that are stored for a guild; there must be some. -/
def storable : Option Guild → Except Fault GuildSettings
  | some (settled settings) => .ok settings
  | some (plain _ _) => .error (.lacks plainKind "to_row")
  | none => .error (.lacks "NoneType" "to_row")

end Guild

end CommandRouter
