import CommandRouter.Store.Basic

/-!
# Stores of guilds

A store of guilds may be any database that understands the statements about guilds. What is relied
on is little, and it is said here in a few laws. A guild is looked up by its id: the answer is its
row, or that there is none. A row that is inserted takes the place of the row of its guild, and the
answer is the row as it is then stored. It has the columns that were sent; it may have others, such
as the time at which it was stored. The table of guilds can be created where it exists.

The laws are about ids that are texts, which is what the ids of guilds are. What becomes of other
statements is left open, except that one that fails writes nothing.

## Main definitions

* `GuildEngine` is an engine that keeps the rows of guilds.
-/

namespace CommandRouter

/-- An engine that keeps the rows of guilds by ids that are texts. -/
structure GuildEngine extends Engine where
  /-- The row in which a record is stored. -/
  stored : Rows → Record → Row
  /-- A row has the columns that were sent. -/
  get?_stored : ∀ rows record column value, record.get? column = some value →
    (stored rows record).get? column = some value
  /-- A lookup gives the row of the guild and changes nothing. -/
  execute_find : ∀ rows id,
    execute rows (.find "guilds" "id" (.text id)) = (.ok (rows.find? (.text id)), rows)
  /-- An insertion stores the record that was sent. -/
  execute_upsert : ∀ rows (record : Record) id, record.keys = ["id", "prefixes", "aliases"] →
    record.get? "id" = some (.text id) →
      execute rows (.upsert ⟨"guilds", record, .ofList ["id"]⟩) =
        (.ok (some (stored rows record)), rows.keep (.text id) (some (stored rows record)))
  /-- The table of guilds is there, and nothing else changes. -/
  execute_createGuilds : ∀ rows, execute rows .createGuilds = (.ok none, rows)
  /-- A statement that fails writes nothing, and the fault is no interruption. -/
  harmless : ∀ rows statement, Engine.Harmless rows (execute rows statement)

end CommandRouter
