import CommandRouter.Store.Source
import CommandRouter.Value.Operators

/-!
# The repository of guild settings

Settings are read from the row store through a cache: what was read is served from memory until
it expires, including the fact that a guild has no settings. Saving settings forgets what the
cache holds for the guild.

The id of a guild is a text in everyday use, and any value that may be a key will do. A value that
names no key is never found again, so nothing is remembered for it.

## Expiry

What the cache holds is served strictly before its expiry and evicted from its expiry on, so at any
time an entry is either served or evicted. The exception is an expiry that is not a number: it
compares to nothing, and such an entry is neither served nor evicted until it is replaced.

The time and the lifetime are values, of which the expiry is the sum. Usually they are numbers; that
they cannot be compared or added is a fault of the fetch that has to do so.

Eviction comes before the statement, and remembering after the row has been decoded. So a fetch
that fails later has evicted what had expired and has remembered nothing.

The settings that a fetch gives are the very ones that the cache holds. Who changes them changes
what later fetches give, until the entry is dropped.

## Main definitions

* `Cached` is what the cache holds for a guild.
* `GuildRepository` is the source of the rows with the cache.
* `GuildRepository.fetch`, `GuildRepository.save` and `GuildRepository.invalidate` are its
  operations. A fetch that memory does not serve is made of `evict` and `load`, which sends a
  statement and keeps what is answered; a save is made of a statement and `settle`.
-/

namespace CommandRouter

/-- What the cache holds for a guild. -/
structure Cached where
  /-- The id of the guild, as it was spelled when it was remembered. -/
  id : Value
  /-- The time from which on it is no longer served. -/
  expiry : Value
  /-- The settings of the guild, if it has any. -/
  settings : Option GuildSettings

namespace Cached

/-- Whether an entry is served at a time. -/
def isServed (cached : Cached) (now : Value) : Except Fault Bool :=
  Value.compare .greater cached.expiry now

/-- Whether an entry has expired at a time. -/
def expiresBy (cached : Cached) (now : Value) : Except Fault Bool :=
  Value.compare .atMost cached.expiry now

/-- Whether an entry is known to have expired at a time. -/
def isExpired (cached : Cached) (now : Value) : Bool :=
  (cached.expiresBy now).toOption.getD false

end Cached

/-- The source of the rows of guild settings, with a cache. -/
structure GuildRepository where
  /-- The source of the rows. -/
  source : RowSource
  /-- How long settings are served from memory. -/
  lifetime : Value
  /-- What was read, by the key that the id of the guild names. -/
  cache : Table Key Cached
  /-- The room for reading the texts of a row. -/
  room : Room

namespace GuildRepository

/-- A repository with an empty cache. -/
def create (connected : Bool) (store : Store) (lifetime : Value) (room : Room) :
    GuildRepository :=
  ⟨⟨"GuildRepository", "guilds", "id", connected, store⟩, lifetime, .empty, room⟩

/-- Run an action on the source of the rows. -/
def onSource {α : Type} (action : Action RowSource α) : Action GuildRepository α :=
  Action.zoom source (fun source repository => { repository with source }) action

/-! ### The cache -/

/-- What the cache holds for a guild. -/
def cached? (repository : GuildRepository) (id : Value) : Option Cached :=
  id.key?.bind repository.cache.get?

/-- What memory serves for a guild at a time. -/
def served? (repository : GuildRepository) (now id : Value) : Except Fault (Option Cached) :=
  if id.isKey then
    match repository.cached? id with
    | none => .ok none
    | some cached =>
      (cached.isServed now).map fun served => if served then some cached else none
  else .error (.notAKey id.kindName)

/-- Forget everything that has expired. Every expiry is compared before anything is forgotten. -/
def evict (repository : GuildRepository) (now : Value) : Except Fault GuildRepository := do
  let _ ← repository.cache.values.mapM fun cached => cached.expiresBy now
  return { repository with
    cache := repository.cache.filter fun _ cached => !cached.isExpired now }

/-- Keep what was read for a guild at a time. The first spelling of an id stays. -/
def remember (repository : GuildRepository) (now id : Value) (settings : Option GuildSettings) :
    Except Fault GuildRepository :=
  (now.add repository.lifetime).map fun expiry =>
    match id.key? with
    | none => repository
    | some key =>
      let spelling := ((repository.cache.get? key).map Cached.id).getD id
      { repository with cache := repository.cache.insert key ⟨spelling, expiry, settings⟩ }

/-- Forget one guild. -/
def forget (repository : GuildRepository) (id : Value) : GuildRepository :=
  match id.key? with
  | some key => { repository with cache := repository.cache.erase key }
  | none => repository

/-- Forget everything. -/
def forgetAll (repository : GuildRepository) : GuildRepository :=
  { repository with cache := .empty }

/-- Forget one guild, or every guild if no id is given. Where nothing is remembered the id is not
looked at. -/
def invalidate (repository : GuildRepository) (id : Value) : Except Fault GuildRepository :=
  if id matches .null then .ok repository.forgetAll
  else if repository.cache.isEmpty then .ok repository
  else if id.isKey then .ok (repository.forget id)
  else .error (.notAKey id.kindName)

/-- The repository after settings of a guild that it has given away were changed. They are those
that the cache holds for the guild. -/
def edit (repository : GuildRepository) (id : String) (settings : GuildSettings) :
    GuildRepository :=
  match repository.cache.get? (.text id) with
  | some cached =>
    { repository with
      cache := repository.cache.insert (.text id) { cached with settings := some settings } }
  | none => repository

/-! ### Reading and writing -/

/-- The settings that a row stores, if there is a row. -/
def decode (room : Room) (row : Option Row) : Except Fault (Option GuildSettings) :=
  match row with
  | none => .ok none
  | some row => (GuildSettings.ofRow room row).map some

/-- Change the repository, or fail and leave it as it is. -/
def change (f : GuildRepository → Except Fault GuildRepository) : Action GuildRepository Unit := do
  let repository ← Action.get
  let changed ← Action.ofExcept (f repository)
  Action.set changed

/-- Decode what the store has answered for a guild and remember it. -/
def keep (now id : Value) (row : Option Row) : Action GuildRepository (Option GuildSettings) := do
  let repository ← Action.get
  let settings ← Action.ofExcept (decode repository.room row)
  change fun repository => repository.remember now id settings
  return settings

/-- Read the row of a guild and remember what it stores. -/
def load (now id : Value) : Action GuildRepository (Option GuildSettings) := do
  let row ← onSource (RowSource.find id)
  keep now id row

/-- The settings of a guild at a time. A repository that is not connected has none. -/
def fetch (now id : Value) : Action GuildRepository (Option GuildSettings) := do
  let repository ← Action.get
  if repository.source.connected then
    match ← Action.ofExcept (repository.served? now id) with
    | some cached => return cached.settings
    | none =>
      change fun repository => repository.evict now
      load now id
  else return none

/-- Say that nothing is saved, because there is no connection. -/
def saveNothing : Action GuildRepository (Option GuildSettings) := do
  let repository ← Action.get
  Action.log (.warning repository.source.name "Database not connected, guild settings not saved")
  return none

/-- Forget what the cache holds for a guild that was stored, and decode what the store has
answered. -/
def settle (id : Value) (row : Option Row) : Action GuildRepository (Option GuildSettings) := do
  change fun repository => repository.invalidate id
  let repository ← Action.get
  Action.ofExcept (decode repository.room row)

/-- Store settings and forget what the cache holds for their guild. -/
def save (settings : GuildSettings) : Action GuildRepository (Option GuildSettings) := do
  let repository ← Action.get
  if repository.source.connected then
    let row ← onSource (RowSource.upsert settings.toRecord ["id"])
    settle settings.id row
  else saveNothing

end GuildRepository

end CommandRouter
