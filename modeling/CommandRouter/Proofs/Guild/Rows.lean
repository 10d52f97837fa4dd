import CommandRouter.Proofs.Guild.Decoding
import CommandRouter.Proofs.Guild.Fetch
import CommandRouter.Store.Memory

/-!
# The rows of guilds

Two statements are sent about guilds, and the laws of a store of guilds say what becomes of them. A
fault that waits is used up, and nothing else happens. Otherwise the row of the guild is looked up,
or a row that stores the settings is put in its place. The row that is stored may say more than what
was sent, but nothing of that is read.

## Main definitions

* `Rows.settings` is what the rows of a store hold of a guild, and `Rows.put` puts a row in place.
* `GuildStore` is a store of guilds with its rows, and `RowSource.ofRows` the source of some rows,
  with faults that wait for statements.

## Main results

* `GuildEngine.ofRow_stored` says that the row that is stored is read as if it were the one that was
  sent.
* `GuildRepository.read_of_rows` and `GuildRepository.answer_insertion` are the two statements, and
  `GuildRepository.answer_of_failing` is what a waiting fault does to either.
* `Rows.settings_put_of_ne` says that the settings of other guilds stay.
* `GuildRepository.run_fetch_of_rows` is what a fetch comes to that memory does not serve.
* `GuildRepository.run_save_of_rows` and `GuildRepository.run_save_of_failing` are what a save comes
  to, without and with a fault that waits.
-/

namespace CommandRouter

namespace Rows

/-- The row of a guild. -/
def row? (rows : Rows) (id : String) : Option Row := rows.find? (.text id)

/-- What the rows hold of a guild. -/
def settings (rows : Rows) (room : Room) (id : String) : Except Fault (Option GuildSettings) :=
  GuildRepository.decode room (RowSource.present (rows.row? id))

/-- The rows with a row in the place of a guild. -/
def put (rows : Rows) (id : String) (row : Row) : Rows := rows.keep (.text id) (some row)

theorem row?_put_self (rows : Rows) (id : String) (row : Row) :
    (rows.put id row).row? id = some row := by
  show ((rows.insert (.under (.text id)) _).get? (.under (.text id))).bind Prod.snd = some row
  rw [Table.get?_insert_self]
  rfl

theorem row?_put_of_ne (rows : Rows) {id other : String} (differ : id ≠ other) (row : Row) :
    (rows.put id row).row? other = rows.row? other := by
  have apart : (Place.under (.text id)) ≠ .under (.text other) := by
    rintro ⟨⟩
    exact differ rfl
  show ((rows.insert (.under (.text id)) _).get? (.under (.text other))).bind Prod.snd = _
  rw [Table.get?_insert_of_ne rows _ apart]
  rfl

/-- What the rows hold of other guilds stays. -/
theorem settings_put_of_ne (rows : Rows) (room : Room) {id other : String} (differ : id ≠ other)
    (row : Row) : (rows.put id row).settings room other = rows.settings room other := by
  rw [settings, row?_put_of_ne rows differ, settings]

end Rows

/-- The source of the rows of guilds, with faults that wait for statements. -/
def RowSource.ofRows (engine : GuildEngine) (rows : Rows) (failures : List Fault) : RowSource :=
  ⟨"GuildRepository", "guilds", "id", true, ⟨engine.toEngine, rows, failures⟩⟩

/-! ### Rows that store settings -/

namespace GuildEngine

variable (engine : GuildEngine) (rows : Rows)

/-- What a store adds to the row of a guild does not matter. -/
theorem ofRow_stored (room : Room) (settings : GuildSettings) :
    GuildSettings.ofRow room (engine.stored rows settings.toRecord) =
      GuildSettings.ofRow room (.ofRecord settings.toRecord) := by
  obtain ⟨id, prefixes, aliases⟩ := settings.get?_toRecord
  rw [GuildSettings.ofRow, GuildSettings.ofRow, Row.get?_ofRecord, Row.get?_ofRecord,
    Row.get?_ofRecord, id, prefixes, aliases, engine.get?_stored rows _ _ _ id,
    engine.get?_stored rows _ _ _ prefixes, engine.get?_stored rows _ _ _ aliases]

/-- The row in which settings are stored has columns. -/
theorem present_stored (settings : GuildSettings) :
    RowSource.present (some (engine.stored rows settings.toRecord)) =
      some (engine.stored rows settings.toRecord) := by
  have named := engine.get?_stored rows _ _ _ settings.get?_toRecord.1
  rw [RowSource.present, Option.filter_some, if_pos]
  rw [Row.isEmpty, Bool.not_eq_true', List.isEmpty_eq_false_iff]
  intro none
  rw [Row.get?, none] at named
  cases named

end GuildEngine

/-- A store of guilds with what it holds. -/
structure GuildStore where
  /-- The engine of the store. -/
  engine : GuildEngine
  /-- The room for reading its rows. -/
  room : Room
  /-- The rows. -/
  rows : Rows

namespace GuildStore

/-- A store in memory without rows. -/
def empty : GuildStore := ⟨.inMemory, .flat, .empty⟩

/-- What the store holds of a guild. -/
def settings (store : GuildStore) (id : String) : Except Fault (Option GuildSettings) :=
  store.rows.settings store.room id

/-- The store after some settings were stored under an id. -/
def put (store : GuildStore) (id : String) (settings : GuildSettings) : GuildStore :=
  { store with rows := store.rows.put id (store.engine.stored store.rows settings.toRecord) }

/-- What the store holds of other guilds stays. -/
theorem settings_put_of_ne (store : GuildStore) {id other : String} (differ : id ≠ other)
    (settings : GuildSettings) : (store.put id settings).settings other = store.settings other :=
  store.rows.settings_put_of_ne store.room differ _

/-- What the store holds of a guild whose settings were stored. -/
theorem settings_put_self (store : GuildStore) (id : String) (settings : GuildSettings) :
    (store.put id settings).settings id =
      GuildRepository.decode store.room (some (.ofRecord settings.toRecord)) := by
  show GuildRepository.decode store.room (RowSource.present ((store.rows.put id _).row? id)) = _
  rw [Rows.row?_put_self, store.engine.present_stored, GuildRepository.decode,
    GuildRepository.decode, store.engine.ofRow_stored]

end GuildStore

namespace GuildRepository

variable {repository : GuildRepository} {engine : GuildEngine} {rows : Rows}

/-- A fault that waits is the answer to the next statement. -/
theorem answer_of_failing {fault : Fault} {later : List Fault}
    (source : repository.source = .ofRows engine rows (fault :: later)) (statement : Statement) :
    repository.answer statement = .error fault.told ∧
      repository.asked statement = { repository with source := .ofRows engine rows later } := by
  have asking : repository.source.store.answer statement =
      (.error fault, ⟨engine.toEngine, rows, later⟩) := by
    rw [source]
    rfl
  rw [answer, asked, asking, source]
  exact ⟨rfl, rfl⟩

/-- Without a fault that waits a guild is looked up among the rows, which stay. -/
theorem answer_lookup (source : repository.source = .ofRows engine rows []) (id : String) :
    repository.answer (repository.lookup (.text id)) = .ok (rows.row? id) ∧
      repository.asked (repository.lookup (.text id)) = repository := by
  have asking : repository.source.store.answer (repository.lookup (.text id)) =
      (.ok (rows.row? id), ⟨engine.toEngine, rows, []⟩) := by
    rw [lookup, source, RowSource.ofRows, Store.answer_mk_nil, engine.execute_find]
    rfl
  rw [answer, asked, asking]
  refine ⟨rfl, ?_⟩
  obtain ⟨source', lifetime, cache, room⟩ := repository
  cases source
  rfl

theorem read_of_rows (source : repository.source = .ofRows engine rows []) (id : String) :
    repository.read (.text id) = rows.settings repository.room id := by
  rw [read, (answer_lookup source id).1]
  rfl

/-- Without a fault that waits the row that stores some settings is put in place. -/
theorem answer_insertion (source : repository.source = .ofRows engine rows []) {id : String}
    {settings : GuildSettings} (named : settings.id = .text id) :
    repository.answer (repository.insertion settings) =
        .ok (some (engine.stored rows settings.toRecord)) ∧
      repository.asked (repository.insertion settings) =
        { repository with
          source := .ofRows engine (rows.put id (engine.stored rows settings.toRecord)) [] } := by
  have asking : repository.source.store.answer (repository.insertion settings) =
      (.ok (some (engine.stored rows settings.toRecord)),
        ⟨engine.toEngine, rows.put id (engine.stored rows settings.toRecord), []⟩) := by
    rw [insertion, source, RowSource.ofRows, Store.answer_mk_nil,
      engine.execute_upsert rows settings.toRecord id settings.keys_toRecord
        (named ▸ settings.get?_toRecord.1)]
    rfl
  rw [answer, asked, asking, source]
  exact ⟨rfl, rfl⟩

/-- Looking a guild up leaves the rows, and some of the faults. -/
theorem exists_asked_lookup_eq {failures : List Fault}
    (source : repository.source = .ofRows engine rows failures) (id : String) :
    ∃ failures', repository.asked (repository.lookup (.text id)) =
      { repository with source := .ofRows engine rows failures' } := by
  cases failures with
  | nil =>
    refine ⟨[], (answer_lookup source id).2.trans ?_⟩
    rw [← source]
  | cons fault later => exact ⟨later, (answer_of_failing source _).2⟩

/-! ### Fetching -/

theorem asking_of_answer_ok {statement : Statement} {row : Option Row}
    (answered : repository.answer statement = .ok row) :
    repository.asking statement = [.queried statement] := by
  rw [asking]
  rw [answer] at answered
  cases given : (repository.source.store.answer statement).1 with
  | ok row => rfl
  | error fault =>
    rw [given] at answered
    cases answered

/-- Without a fault that waits, what memory does not serve is read and remembered. -/
theorem run_fetch_of_rows {evicted remembered : GuildRepository}
    (source : repository.source = .ofRows engine rows []) {now : Value} {id : String}
    {settings : Option GuildSettings} (missed : repository.served? now (.text id) = .ok none)
    (evicting : repository.evict now = .ok evicted)
    (reading : rows.settings repository.room id = .ok settings)
    (remembering : evicted.remember now (.text id) settings = .ok remembered) :
    fetch now (.text id) repository =
      ⟨[.queried (repository.lookup (.text id))], remembered, .ok settings⟩ := by
  have connected : repository.source.connected = true := by
    rw [source]
    rfl
  have kept : evicted.source = repository.source := by
    rw [eq_of_evict evicting]
  have same : evicted.source = .ofRows engine rows [] := kept.trans source
  have looked : evicted.lookup (.text id) = repository.lookup (.text id) := by
    rw [lookup, lookup, kept]
  obtain ⟨answered, asked⟩ := answer_lookup same id
  rw [run_fetch connected, missed, evicting]
  dsimp only
  have room : evicted.room = repository.room := by
    rw [eq_of_evict evicting]
  rw [run_load (by rw [kept, connected]), read_of_rows same, room, reading, asked]
  dsimp only
  rw [remembering, asking_of_answer_ok answered, looked]

/-! ### Saving and forgetting -/

/-- An invalidation of a text forgets just that guild. -/
theorem invalidate_text (repository : GuildRepository) (id : String) :
    repository.invalidate (.text id) = .ok (repository.forget (.text id)) := by
  rw [invalidate_of_ne_null (by simp)]
  by_cases nothing : repository.cache.isEmpty = true
  · rw [if_pos nothing]
    have same : repository.cache.erase (.text id) = repository.cache := by
      refine Table.ext ?_
      have entries : repository.cache.toList = [] := List.isEmpty_iff.1 nothing
      rw [Table.erase, Table.toList_filter, entries]
      rfl
    show Except.ok repository = .ok { repository with cache := repository.cache.erase (.text id) }
    rw [same]
  · rw [if_neg nothing]
    rfl

/-- Without a fault that waits a save puts a row in place and forgets the guild. -/
theorem run_save_of_rows (source : repository.source = .ofRows engine rows []) {id : String}
    {settings : GuildSettings} (named : settings.id = .text id) :
    save settings repository =
      ⟨[.queried (repository.insertion settings)],
        { repository.forget (.text id) with
          source := .ofRows engine (rows.put id (engine.stored rows settings.toRecord)) [] },
        decode repository.room (some (.ofRecord settings.toRecord))⟩ := by
  obtain ⟨answered, asked⟩ := answer_insertion source named
  have connected : repository.source.connected = true := by
    rw [source]
    rfl
  rw [run_save connected, answered, asking_of_answer_ok answered, asked, named]
  dsimp only [Except.map]
  rw [invalidate_text, engine.present_stored, decode, decode, engine.ofRow_stored]
  rfl

/-- A fault that waits makes a save fail, and nothing else happens. -/
theorem run_save_of_failing {fault : Fault} {later : List Fault}
    (source : repository.source = .ofRows engine rows (fault :: later)) (settings : GuildSettings) :
    (save settings repository).state = { repository with source := .ofRows engine rows later } ∧
      (save settings repository).result = .error fault.told := by
  obtain ⟨answered, asked⟩ := answer_of_failing source (repository.insertion settings)
  have connected : repository.source.connected = true := by
    rw [source]
    rfl
  rw [run_save connected, answered]
  exact ⟨asked, rfl⟩

end GuildRepository

end CommandRouter
