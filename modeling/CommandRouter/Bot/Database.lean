import CommandRouter.Action
import CommandRouter.Store.Guilds

/-!
# The database connection

The bot keeps at most one connection pool open. Starting opens a pool and creates the table of
guild settings; closing closes the pool and forgets it.

## Main definitions

* `Backend` says how the database behaves, and `Pool` is an open connection pool.
* `Database.start`, `Database.createTables` and `Database.close` are the operations.
-/

namespace CommandRouter

/-- How the database behaves when it is used. -/
structure Backend where
  /-- The engine that executes statements. -/
  engine : GuildEngine
  /-- The rows it holds. -/
  rows : List (Value × Option Row) := []
  /-- The fault with which opening a pool fails, if it does. -/
  connectFault : Option Fault := none
  /-- The fault with which the first statement on a pool fails, if it does. -/
  executeFault : Option Fault := none
  /-- The fault with which closing a pool fails, if it does. -/
  closeFault : Option Fault := none

/-- An open connection pool. -/
structure Pool where
  /-- The store behind the pool. -/
  store : Store
  /-- The fault with which closing the pool fails, if it does. -/
  closeFault : Option Fault

namespace Backend

/-- The pool that the database opens. -/
def pool (backend : Backend) : Pool :=
  ⟨⟨backend.engine.toEngine, .ofList backend.rows, backend.executeFault.toList⟩, backend.closeFault⟩

end Backend

/-- The connection of the bot to the database. -/
structure Database where
  /-- The open pool, if there is one. -/
  pool : Option Pool

namespace Database

/-- No connection yet. -/
def initial : Database := ⟨none⟩

/-- Whether a pool is open. -/
def isOpen (database : Database) : Bool := database.pool.isSome

/-- Open a pool. -/
def openPool (backend : Backend) (url : Value) : Action Database Unit := do
  Action.emit (.poolOpened url)
  match backend.connectFault with
  | some fault => Action.raise fault
  | none => Action.set ⟨some backend.pool⟩

/-- Create the table of guild settings if it does not exist, provided that a pool is open. -/
def createTables : Action Database Unit := do
  let database ← Action.get
  match database.pool with
  | none => return ()
  | some pool =>
    Action.emit (.queried .createGuilds)
    let (result, store) := pool.store.answer .createGuilds
    Action.set ⟨some { pool with store }⟩
    let _ ← Action.ofExcept result
    Action.log (.info "Database" "Database tables initialized")

/-- Open a pool and create the table. Without an address there is no database. -/
def start (backend : Backend) (url : Value) : Action Database (Option Pool) :=
  if !url.truthy then do
    Action.log (.warning "Database" "DATABASE_URL not set - guild prefixes and aliases disabled")
    return none
  else
    Action.telling (fun message => .error "Database" ("Failed to connect to database: " ++ message))
      (do
        openPool backend url
        Action.log (.info "Database" "Database connected successfully")
        createTables
        let database ← Action.get
        return database.pool)

/-- Close the pool, if one is open. A pool that cannot be closed stays. -/
def close : Action Database Unit := do
  let database ← Action.get
  match database.pool with
  | none => return ()
  | some pool =>
    Action.emit .poolClosed
    match pool.closeFault with
    | some fault => Action.raise fault
    | none =>
      Action.set ⟨none⟩
      Action.log (.info "Database" "Database connection closed")

end Database

end CommandRouter
