import CommandRouter.Bot.Basic
import CommandRouter.Proofs.Actions
import CommandRouter.Proofs.Registry.Registration
import CommandRouter.Store.Memory
import Mathlib.Data.List.Induction

/-!
# What the health report tells of the life of a bot

Three things that change at different times come together in a health report: the status, the
published command table, and the time. The bot may be set up again, may lose the chat and be ready
again, and may be closed and start over, in any order. So the report is described by the history of
the bot.

## What the history says

The bot counts as connected if it was ready at some moment and was not closed since. Only a closing
that succeeds counts: one that fails to close the database leaves the status as it is. The uptime is
the time since the chat was ready for the last time. The command table is published by the first
set-up that succeeds and remains so, and since it is the table itself and not a copy, later
registrations show.

## Times

Time is counted in integers here and goes forwards. An uptime of more digits than may be written
makes the report a fault, but the clock itself has as many digits then, unless it began below zero.

## Main definitions

* `Bot.Episode` is something that happens in the life of a bot, and `Bot.after` is what some
  episodes make of it.
* `Bot.Step` tells what one episode may do.
* `Bot.IsUp` says that the bot was ready and was not closed since, `Bot.LastReady` finds the last
  moment at which it was ready, and `Bot.IsSetUp` says that a set-up succeeded.
* `Bot.Reports` is what a health report has to say of a history.

## Main results

* `Bot.step_undergo` is the inversion of one episode.
* `Bot.clock_after`, `Bot.roster_after`, `Bot.listed_after_iff` and `Bot.status_after` are what a
  history leaves of each thing that the report is made of.
* `Bot.health_after` puts them together.
-/

namespace CommandRouter

/-- A number is not too long to be written if a larger one is not. -/
theorem isTooLong_eq_false_of_le {m n : Int} (nonneg : 0 ≤ m) (le : m ≤ n)
    (h : isTooLong n = false) : isTooLong m = false := by
  have smaller : m.natAbs ≤ n.natAbs := by omega
  rw [isTooLong, decide_eq_false_iff_not] at h ⊢
  exact fun long => h (Nat.le_trans long smaller)

/-! ### What a status tells -/

namespace Status

/-- Whether a status tells that the bot is ready since a time, or that it is not ready. -/
structure Tells (status : Status) (since : Option Int) : Prop where
  /-- The field for the chat. -/
  connected : status.get? "discord_connected" = some (.bool since.isSome)
  /-- The field for the time. -/
  readyAt : status.get? "ready_at" = some (since.elim .null .int)

theorem tells_initial : Tells .initial none := ⟨rfl, rfl⟩

theorem tells_ready (status : Status) (now : Int) :
    Tells (status.update (readyFields (.int now))) (some now) := by
  constructor <;> simp [update, readyFields, Table.get?_insert]

theorem tells_offline (status : Status) : Tells (status.update offlineFields) none := by
  constructor <;> simp [update, offlineFields, Table.get?_insert]

/-- The report at a time, of a bot that is ready since another time, or is not. -/
def report (since : Option Int) (now : Int) (databaseOpen : Bool) (registry : Option Registry) :
    Health where
  connected := since.isSome
  database := databaseOpen
  uptime := since.elim 0 fun since => now - since
  commands := (registry.map Registry.size).getD 0

/-- **The report is made of what the status tells**, unless the uptime cannot be written. -/
theorem Tells.health_eq {status : Status} {since : Option Int} (h : status.Tells since) (now : Int)
    (databaseOpen : Bool) (registry : Option Registry) :
    status.health (.int now) databaseOpen registry =
      if isTooLong (report since now databaseOpen registry).uptime then .error .tooLongToWrite
      else .ok (report since now databaseOpen registry) := by
  have elapsed : Status.elapsed (.int now) ((status.get? "ready_at").getD .null) =
      .ok (report since now databaseOpen registry).uptime := by
    rw [h.readyAt]
    cases since <;> rfl
  rw [Status.health, elapsed, ok_bind, h.connected]
  split <;> rfl

end Status

/-! ### Histories of the command table -/

namespace Roster

theorem after_append (roster : Roster) (history later : List Operation) :
    after roster (history ++ later) = after (after roster history) later := by
  induction history generalizing roster with
  | nil => rfl
  | cons operation history ih => exact ih (perform operation roster).state

/-- No operation makes a command, so none uses an identity up. -/
theorem nextId_perform (operation : Operation) (roster : Roster) :
    (perform operation roster).state.nextId = roster.nextId :=
  perform_cases (motive := fun _ outcome => outcome.state.nextId = roster.nextId) roster
    (fun _ _ _ _ _ => rfl) (fun _ _ _ _ _ => rfl) (fun _ _ => rfl) (fun _ _ => rfl) operation

theorem nextId_after (roster : Roster) (history : List Operation) :
    (after roster history).nextId = roster.nextId := by
  induction history generalizing roster with
  | nil => rfl
  | cons operation later ih => rw [after, ih, nextId_perform]

/-- The table grows from nothing by one with each registration that succeeds. -/
theorem size_after (categories : Categories) (history : List Operation) :
    (after (create categories) history).registry.size =
      (registered (create categories) history).length := by
  have start : (create categories).registry.Consistent := Registry.consistent_empty categories
  obtain ⟨-, grown⟩ := consistent_after start history
  rw [← Registry.length_entries, grown]
  exact Nat.zero_add _

end Roster

/-! ### The database -/

/-- A pool that cannot be closed stays. -/
theorem Database.state_close_of_error {database : Database} {fault : Fault}
    (failed : (close database).result = .error fault) : (close database).state = database := by
  obtain ⟨pool⟩ := database
  cases pool with
  | none => rfl
  | some pool =>
    rw [close, Action.run_get_bind] at failed ⊢
    dsimp only at failed ⊢
    rw [Action.run_emit_bind] at failed ⊢
    cases closing : pool.closeFault with
    | none =>
      rw [closing] at failed
      cases failed
    | some fault => rfl

/-! ### The episodes of a life -/

namespace Bot

/-- The roster of a bot. Commands are made before they are registered, so no identity is needed. -/
def roster (bot : Bot) : Roster := ⟨bot.registry, 0⟩

/-- Something that happens in the life of a bot. -/
inductive Episode where
  /-- The bot is set up, with a database that behaves in some way. -/
  | setUp (backend : Backend)
  /-- The chat is ready. -/
  | ready
  /-- A message arrives. -/
  | receive (message : Message)
  /-- The bot is closed. -/
  | close
  /-- A command is registered, or the command table is changed in another way. -/
  | administer (operation : Roster.Operation)
  /-- Time passes. -/
  | pass (ticks : Nat)

namespace Episode

/-- The action of an episode. -/
def action : Episode → Action Bot Unit
  | setUp backend => Bot.setUp backend
  | ready => Bot.ready
  | receive message => (fun _ => ()) <$> Bot.receive message
  | close => Bot.close
  | administer operation =>
    (fun _ => ()) <$> Action.zoom roster
      (fun roster bot => { bot with registry := roster.registry }) (Roster.perform operation)
  | pass ticks => do
    let bot ← Action.get
    let now ← Action.ofExcept (bot.clock.add (.int ticks))
    Action.set { bot with clock := now }

/-- The time that passes during an episode. -/
def ticks : Episode → Nat
  | pass ticks => ticks
  | _ => 0

/-- The operation on the command table that an episode is, if it is one. -/
def operation? : Episode → Option Roster.Operation
  | administer operation => some operation
  | _ => none

end Episode

/-- The bot after an episode, whether that succeeded or not. -/
def undergo (bot : Bot) (episode : Episode) : Bot := (episode.action bot).state

/-- The bot after some episodes. -/
def after (bot : Bot) (history : List Episode) : Bot := history.foldl undergo bot

/-- The time after some episodes. -/
def timeAfter (start : Int) (history : List Episode) : Int :=
  history.foldl (fun now episode => now + episode.ticks) start

/-- A bot that has just been created, at a time. -/
def awake (room : Room) (config : Config) (registry : Registry) (start : Int) : Bot :=
  { fresh room config registry with clock := .int start }

/-! ### What a history is asked for -/

/-- Whether an episode is a closing that succeeds. -/
def Closes (bot : Bot) (episode : Episode) : Prop :=
  episode = .close ∧ (close bot).result = .ok ()

/-- Whether no closing succeeds in the course of some episodes. -/
def Unclosed : Bot → List Episode → Prop
  | _, [] => True
  | bot, episode :: later => ¬bot.Closes episode ∧ Unclosed (bot.undergo episode) later

/-- Whether the bot was ready at some moment and was not closed since. -/
def IsUp (bot : Bot) (history : List Episode) : Prop :=
  ∃ before later, history = before ++ .ready :: later ∧
    Unclosed (bot.after (before ++ [.ready])) later

/-- Whether some episodes are those before the chat was ready for the last time. -/
def LastReady (history before : List Episode) : Prop :=
  ∃ later, history = before ++ .ready :: later ∧ .ready ∉ later

/-- Whether a set-up succeeds in the course of some episodes. -/
def IsSetUp (bot : Bot) (history : List Episode) : Prop :=
  ∃ before backend later, history = before ++ .setUp backend :: later ∧
    (setUp backend (bot.after before)).result = .ok ()

variable {bot : Bot} {history : List Episode} {episode : Episode} {start : Int}

theorem after_append (bot : Bot) (history later : List Episode) :
    bot.after (history ++ later) = (bot.after history).after later := List.foldl_append

@[simp] theorem after_append_singleton (bot : Bot) (history : List Episode) (episode : Episode) :
    bot.after (history ++ [episode]) = (bot.after history).undergo episode :=
  bot.after_append history [episode]

theorem timeAfter_append (start : Int) (history later : List Episode) :
    timeAfter start (history ++ later) = timeAfter (timeAfter start history) later :=
  List.foldl_append

@[simp] theorem timeAfter_append_singleton (start : Int) (history : List Episode)
    (episode : Episode) :
    timeAfter start (history ++ [episode]) = timeAfter start history + episode.ticks :=
  timeAfter_append start history [episode]

theorem le_timeAfter (start : Int) (history : List Episode) : start ≤ timeAfter start history := by
  induction history generalizing start with
  | nil => exact Int.le_refl start
  | cons episode later ih =>
    have first : start ≤ start + episode.ticks :=
      Int.le_add_of_nonneg_right (Int.natCast_nonneg _)
    exact Int.le_trans first (ih (start + episode.ticks))

/-- An episode of a longer history is the last one, or one of those before. -/
theorem append_singleton_eq_iff {before later : List Episode} {last : Episode} :
    history ++ [last] = before ++ episode :: later ↔
      (history = before ∧ last = episode ∧ later = []) ∨
        ∃ rest, later = rest ++ [last] ∧ history = before ++ episode :: rest := by
  cases later using List.reverseRecOn with
  | nil =>
    rw [← List.concat_eq_append, ← List.concat_eq_append, List.concat_inj]
    simp
  | append_singleton rest other =>
    rw [← List.cons_append, ← List.append_assoc, ← List.concat_eq_append,
      ← List.concat_eq_append, List.concat_inj]
    simp [and_comm, @eq_comm _ last]

theorem unclosed_append_singleton_iff :
    Unclosed bot (history ++ [episode]) ↔
      Unclosed bot history ∧ ¬(bot.after history).Closes episode := by
  induction history generalizing bot with
  | nil => simp [Unclosed, after]
  | cons first later ih =>
    rw [List.cons_append, Unclosed, Unclosed, ih, and_assoc]
    rfl

/-- A bot is up after one more episode if that is the chat being ready, or if it was up and the
episode does not close it. -/
theorem isUp_append_singleton_iff :
    IsUp bot (history ++ [episode]) ↔
      episode = .ready ∨ IsUp bot history ∧ ¬(bot.after history).Closes episode := by
  have resumed (before rest : List Episode) :
      (bot.after (before ++ [.ready])).after rest = bot.after (before ++ .ready :: rest) := by
    rw [← after_append, ← List.append_cons]
  constructor
  · rintro ⟨before, later, split, unclosed⟩
    rcases append_singleton_eq_iff.1 split with ⟨-, rfl, -⟩ | ⟨rest, rfl, rfl⟩
    · exact Or.inl rfl
    · rw [unclosed_append_singleton_iff, resumed] at unclosed
      exact Or.inr ⟨⟨before, rest, rfl, unclosed.1⟩, unclosed.2⟩
  · rintro (rfl | ⟨⟨before, later, rfl, unclosed⟩, notClosed⟩)
    · exact ⟨history, [], rfl, trivial⟩
    · refine ⟨before, later ++ [episode], by simp, ?_⟩
      rw [unclosed_append_singleton_iff, resumed]
      exact ⟨unclosed, notClosed⟩

theorem isSetUp_append_singleton_iff :
    IsSetUp bot (history ++ [episode]) ↔
      IsSetUp bot history ∨
        ∃ backend, episode = .setUp backend ∧
          (setUp backend (bot.after history)).result = .ok () := by
  constructor
  · rintro ⟨before, backend, later, split, succeeded⟩
    rcases append_singleton_eq_iff.1 split with ⟨rfl, rfl, -⟩ | ⟨rest, -, rfl⟩
    · exact Or.inr ⟨backend, rfl, succeeded⟩
    · exact Or.inl ⟨before, backend, rest, rfl, succeeded⟩
  · rintro (⟨before, backend, later, rfl, succeeded⟩ | ⟨backend, rfl, succeeded⟩)
    · exact ⟨before, backend, later ++ [episode], by simp, succeeded⟩
    · exact ⟨history, backend, [], rfl, succeeded⟩

/-! ### One episode -/

/-- What an episode may do to a bot at a time. -/
inductive Step (bot : Bot) (now : Int) : Episode → Bot → Prop where
  /-- The database could not be started. -/
  | setUpFailed {backend : Backend} (failed : (setUp backend bot).result ≠ .ok ())
    (database : Database) : Step bot now (.setUp backend) { bot with database }
  /-- The command table is published. -/
  | setUp {backend : Backend} (succeeded : (Bot.setUp backend bot).result = .ok ())
    (database : Database) (repository : GuildRepository) :
    Step bot now (.setUp backend) { bot with database, repository, listed := true }
  /-- The status is updated with the time. -/
  | ready :
    Step bot now .ready { bot with status := bot.status.update (Status.readyFields bot.clock) }
  /-- Guild settings may have been read, and handlers may have run. -/
  | receive (message : Message) (repository : GuildRepository) (past : List Call) :
    Step bot now (.receive message) { bot with repository, past }
  /-- The database could not be closed. -/
  | closeFailed (failed : (close bot).result ≠ .ok ()) : Step bot now .close bot
  /-- The status is taken back. -/
  | close (succeeded : (Bot.close bot).result = .ok ()) (database : Database) :
    Step bot now .close
      { bot with database, status := bot.status.update Status.offlineFields, closed := true }
  /-- The command table is changed. -/
  | administer (operation : Roster.Operation) :
    Step bot now (.administer operation)
      { bot with registry := (Roster.perform operation bot.roster).state.registry }
  /-- It is later. -/
  | pass (ticks : Nat) : Step bot now (.pass ticks) { bot with clock := .int (now + ticks) }

theorem step_setUp (now : Int) (backend : Backend) :
    Step bot now (.setUp backend) (setUp backend bot).state := by
  cases started : (onDatabase (Database.start backend bot.config.databaseUrl) bot).result with
  | error fault =>
    obtain ⟨failed, left⟩ : (setUp backend bot).result = .error fault ∧
        (setUp backend bot).state =
          (onDatabase (Database.start backend bot.config.databaseUrl) bot).state := by
      rw [setUp, Action.run_log_bind, Action.run_get_bind, Action.run_bind_of_error started]
      exact ⟨rfl, rfl⟩
    rw [left]
    exact .setUpFailed (by rw [failed]; exact nofun) _
  | ok pool =>
    obtain ⟨succeeded, left⟩ : (setUp backend bot).result = .ok () ∧
        (setUp backend bot).state =
          { (onDatabase (Database.start backend bot.config.databaseUrl) bot).state.connect pool with
            listed := true } := by
      rw [setUp, Action.run_log_bind, Action.run_get_bind, Action.run_bind_of_ok started]
      exact ⟨rfl, rfl⟩
    rw [left]
    exact .setUp succeeded _ _

theorem step_close (now : Int) : Step bot now .close (close bot).state := by
  cases closing : (onDatabase Database.close bot).result with
  | error fault =>
    obtain ⟨failed, left⟩ : (close bot).result = .error fault ∧ (close bot).state = bot := by
      rw [close, Action.run_log_bind, Action.run_bind_of_error closing]
      refine ⟨rfl, ?_⟩
      rw [onDatabase, Action.run_zoom, Database.state_close_of_error closing]
    rw [left]
    exact .closeFailed (by rw [failed]; exact nofun)
  | ok =>
    obtain ⟨succeeded, left⟩ : (close bot).result = .ok () ∧ (close bot).state =
        { bot with
          database := (Database.close bot.database).state
          status := bot.status.update Status.offlineFields
          closed := true } := by
      rw [close, Action.run_log_bind, Action.run_bind_of_ok closing]
      exact ⟨rfl, rfl⟩
    rw [left]
    exact .close succeeded _

/-- **What an episode comes to** is one of the steps. -/
theorem step_undergo {now : Int} (time : bot.clock = .int now) (episode : Episode) :
    Step bot now episode (bot.undergo episode) := by
  rw [undergo]
  cases episode with
  | setUp backend => exact step_setUp now backend
  | ready => exact .ready
  | receive message =>
    rw [Episode.action, Action.run_map]
    exact .receive message _ _
  | close => exact step_close now
  | administer operation =>
    rw [Episode.action, Action.run_map]
    exact .administer operation
  | pass ticks =>
    rw [Episode.action, Action.run_get_bind, time, Value.add_int, Action.run_ofExcept_ok_bind]
    exact .pass ticks

namespace Step

variable {now : Int} {left : Bot}

theorem clock (h : Step bot now episode left) (time : bot.clock = .int now) :
    left.clock = .int (now + episode.ticks) := by
  cases h with
  | pass => rfl
  | _ => simpa [Episode.ticks] using time

theorem roster (h : Step bot now episode left) :
    left.roster = Roster.after bot.roster episode.operation?.toList := by
  cases h with
  | administer operation =>
    show Roster.mk (Roster.perform operation bot.roster).state.registry bot.roster.nextId = _
    rw [← Roster.nextId_perform operation]
    rfl
  | _ => rfl

theorem listed_iff (h : Step bot now episode left) :
    left.listed = true ↔ bot.listed = true ∨
      ∃ backend, episode = .setUp backend ∧ (Bot.setUp backend bot).result = .ok () := by
  cases h with
  | setUpFailed failed => simp [failed]
  | setUp succeeded => simp [succeeded]
  | _ => simp

/-- The status is updated when the chat is ready and when a closing succeeds. -/
theorem status_cases (h : Step bot now episode left) :
    (episode = .ready ∧ left.status = bot.status.update (Status.readyFields bot.clock)) ∨
      (bot.Closes episode ∧ left.status = bot.status.update Status.offlineFields) ∨
      episode ≠ .ready ∧ ¬bot.Closes episode ∧ left.status = bot.status := by
  cases h with
  | ready => exact Or.inl ⟨rfl, rfl⟩
  | close succeeded => exact Or.inr (Or.inl ⟨⟨rfl, succeeded⟩, rfl⟩)
  | closeFailed failed => exact Or.inr (Or.inr ⟨nofun, fun h => failed h.2, rfl⟩)
  | _ => exact Or.inr (Or.inr ⟨nofun, nofun, rfl⟩)

end Step

/-! ### A history -/

/-- The time goes on with the history. -/
theorem clock_after (time : bot.clock = .int start) (history : List Episode) :
    (bot.after history).clock = .int (timeAfter start history) := by
  induction history using List.reverseRecOn with
  | nil => exact time
  | append_singleton history episode ih =>
    rw [after_append_singleton, timeAfter_append_singleton]
    exact (step_undergo ih episode).clock ih

/-- The command table goes through the operations of the history and through nothing else. -/
theorem roster_after (time : bot.clock = .int start) (history : List Episode) :
    (bot.after history).roster =
      Roster.after bot.roster (history.filterMap Episode.operation?) := by
  induction history using List.reverseRecOn with
  | nil => rfl
  | append_singleton history episode ih =>
    have operations : [episode].filterMap Episode.operation? = episode.operation?.toList := by
      cases h : episode.operation? <;> simp [h]
    rw [after_append_singleton, (step_undergo (clock_after time history) episode).roster, ih,
      List.filterMap_append, Roster.after_append, operations]

/-- The command table is published exactly if a set-up succeeded. -/
theorem listed_after_iff (time : bot.clock = .int start) (hidden : bot.listed = false)
    (history : List Episode) : (bot.after history).listed = true ↔ IsSetUp bot history := by
  induction history using List.reverseRecOn with
  | nil => simp [after, hidden, IsSetUp]
  | append_singleton history episode ih =>
    rw [after_append_singleton, isSetUp_append_singleton_iff, ← ih]
    exact (step_undergo (clock_after time history) episode).listed_iff

/-- **What the status tells after a history.** The bot is up since the chat was ready for the last
time, or it is not up. -/
theorem status_after (time : bot.clock = .int start) (down : bot.status.Tells none)
    (history : List Episode) :
    (IsUp bot history ∧ ∃ before, LastReady history before ∧
        (bot.after history).status.Tells (some (timeAfter start before))) ∨
      ¬IsUp bot history ∧ (bot.after history).status.Tells none := by
  induction history using List.reverseRecOn with
  | nil => exact Or.inr ⟨by simp [IsUp], down⟩
  | append_singleton history episode ih =>
    have now := clock_after time history
    rw [after_append_singleton, isUp_append_singleton_iff]
    rcases (step_undergo now episode).status_cases with
      ⟨rfl, status⟩ | ⟨closes, status⟩ | ⟨notReady, notClosed, status⟩
    -- The time of the last moment is that of the whole history, which the new episode ends.
    · rw [status, now]
      exact Or.inl ⟨Or.inl rfl, history, ⟨[], rfl, List.not_mem_nil⟩, Status.tells_ready _ _⟩
    · rw [status]
      refine Or.inr ⟨?_, Status.tells_offline _⟩
      rintro (rfl | ⟨-, notClosed⟩)
      · exact nomatch closes.1
      · exact notClosed closes
    · rw [status]
      refine ih.imp ?_ ?_
      · rintro ⟨up, before, ⟨later, rfl, last⟩, tells⟩
        refine ⟨Or.inr ⟨up, notClosed⟩, before, ⟨later ++ [episode], by simp, ?_⟩, tells⟩
        simp [last, notReady.symm]
      · rintro ⟨notUp, tells⟩
        exact ⟨by simp [notReady, notUp], tells⟩

/-! ### The report -/

/-- What a health report has to say of a history that began at a time, when some number of commands
is registered. -/
structure Reports (first : Bot) (start : Int) (history : List Episode) (registered : Nat)
    (report : Health) : Prop where
  /-- A bot that is up is healthy. -/
  healthy : IsUp first history →
    report.code = 200 ∧ report.summary = "healthy" ∧
      Health.connectionWord report.connected = "connected"
  /-- A bot that is not up is degraded. -/
  degraded : ¬IsUp first history →
    report.code = 503 ∧ report.summary = "degraded" ∧
      Health.connectionWord report.connected = "disconnected"
  /-- The uptime of a bot that is up is the time since it was ready for the last time. -/
  uptime_up : IsUp first history → ∃ before, LastReady history before ∧
    report.uptime = timeAfter start history - timeAfter start before
  /-- A bot that is not up has no uptime. -/
  uptime_down : ¬IsUp first history → report.uptime = 0
  /-- The uptime is never negative. -/
  uptime_nonneg : 0 ≤ report.uptime
  /-- No command is reported before a set-up has succeeded. -/
  commands_hidden : ¬IsSetUp first history → report.commands = 0
  /-- From then on all registered commands are reported. -/
  commands_listed : IsSetUp first history → report.commands = registered

theorem LastReady.timeAfter_le {before : List Episode} (h : LastReady history before)
    (start : Int) : timeAfter start before ≤ timeAfter start history := by
  obtain ⟨later, rfl, -⟩ := h
  rw [timeAfter_append]
  exact le_timeAfter _ _

/-- The uptime is at most the time, unless the time began below zero. -/
theorem Reports.uptime_le {first : Bot} {registered : Nat} {report : Health}
    (h : Reports first start history registered report) (nonneg : 0 ≤ start) :
    report.uptime ≤ timeAfter start history := by
  by_cases up : IsUp first history
  · obtain ⟨before, -, uptime⟩ := h.uptime_up up
    have began := le_timeAfter start before
    omega
  · have began := le_timeAfter start history
    have uptime := h.uptime_down up
    omega

/-- The published table is the table, from the first set-up that succeeds. -/
theorem commands_report (time : bot.clock = .int start) (hidden : bot.listed = false)
    (history : List Episode) (since : Option Int) (now : Int) (databaseOpen : Bool) :
    let report := Status.report since now databaseOpen (bot.after history).published
    (¬IsSetUp bot history → report.commands = 0) ∧
      (IsSetUp bot history → report.commands = (bot.after history).registry.size) := by
  rw [← listed_after_iff time hidden history]
  cases listed : (bot.after history).listed <;> simp [Status.report, published, listed]

/-- A history leaves a bot that reports it. -/
theorem exists_reports (time : bot.clock = .int start) (down : bot.status.Tells none)
    (hidden : bot.listed = false) (history : List Episode) :
    ∃ report,
      (bot.after history).health =
        (if isTooLong report.uptime then .error .tooLongToWrite else .ok report) ∧
      Reports bot start history (bot.after history).registry.size report := by
  have now := clock_after time history
  have commands (since : Option Int) := commands_report time hidden history since
    (timeAfter start history) (bot.after history).database.isOpen
  -- The status decides about the connection and the uptime, and the publishing about the rest.
  rcases status_after time down history with ⟨up, before, last, tells⟩ | ⟨notUp, tells⟩
  · refine ⟨_, by rw [health, now, tells.health_eq], ?_⟩
    have elapsed := last.timeAfter_le start
    exact {
      healthy := fun _ => ⟨rfl, rfl, rfl⟩
      degraded := fun notUp => absurd up notUp
      uptime_up := fun _ => ⟨before, last, rfl⟩
      uptime_down := fun notUp => absurd up notUp
      uptime_nonneg := Int.sub_nonneg_of_le elapsed
      commands_hidden := (commands _).1
      commands_listed := (commands _).2 }
  · refine ⟨_, by rw [health, now, tells.health_eq], ?_⟩
    exact {
      healthy := fun up => absurd up notUp
      degraded := fun _ => ⟨rfl, rfl, rfl⟩
      uptime_up := fun up => absurd up notUp
      uptime_down := fun _ => rfl
      uptime_nonneg := Int.le_refl 0
      commands_hidden := (commands _).1
      commands_listed := (commands _).2 }

/-- **The health report tells the life of the bot**, from any fresh start and whatever happened
since. It is a fault only if the uptime has more digits than may be written, and so only when the
time has, if that did not begin below zero. The number of registered commands is that of the
registrations that succeeded, before the start or since. -/
theorem health_after (room : Room) (config : Config) (categories : Categories)
    (loaded : List Roster.Operation) (start : Int) (history : List Episode) :
    let first := awake room config (Roster.after (.create categories) loaded).registry start
    let bot := first.after history
    ∃ report,
      bot.health = (if isTooLong report.uptime then .error .tooLongToWrite else .ok report) ∧
      (0 ≤ start → isTooLong (timeAfter start history) = false → bot.health = .ok report) ∧
      Reports first start history bot.registry.size report ∧
      bot.registry.size =
        (Roster.registered (.create categories)
          (loaded ++ history.filterMap Episode.operation?)).length := by
  intro first bot
  have loadedRoster : first.roster = Roster.after (.create categories) loaded := by
    show Roster.mk (Roster.after _ loaded).registry (Roster.create categories).nextId = _
    rw [← Roster.nextId_after _ loaded]
  have size : bot.roster.registry.size = (Roster.registered (.create categories)
      (loaded ++ history.filterMap Episode.operation?)).length := by
    rw [roster_after rfl history, loadedRoster, ← Roster.after_append, Roster.size_after]
  obtain ⟨report, answer, reports⟩ := first.exists_reports rfl Status.tells_initial rfl history
  refine ⟨report, answer, fun nonneg writable => ?_, reports, size⟩
  have short := isTooLong_eq_false_of_le reports.uptime_nonneg (reports.uptime_le nonneg) writable
  rw [answer, short, if_neg Bool.false_ne_true]

/-- The bot was set up before it was closed, and was ready twice after that. A command was
registered in the end. -/
example :
    ((awake .flat { token := .text "token" } (.empty .empty) 100).after
        [.setUp { engine := .inMemory }, .ready, .pass 20, .close, .pass 5, .ready, .pass 7, .ready,
          .administer (.addCategory (.ofTexts "Fun" "!")),
          .administer (.register (some (.plain 0 "joke" "Fun" ["joke"])) none),
          .pass 3]).health.toOption =
      some ⟨true, false, 3, 1⟩ := by decide +kernel

end Bot

end CommandRouter
