import CommandRouter.Proofs.Guild.Eviction
import CommandRouter.Proofs.Guild.Storage

/-!
# Calls that run at the same time

A fetch is interrupted while the store is asked, and other calls go on in the meantime. So there are
three steps of a fetch that nothing comes between: it looks into the cache, which includes the
eviction, the store answers, and what was answered is remembered. A save has two: the store takes
the row, and the cache forgets the guild. The steps of a call that runs alone make up the call.

Calls are known by their positions in the order in which they were begun. A step names the call
that takes it; if that call is at another step, nothing happens, so every list of steps is a run.

## Main definitions

* `GuildRepository.look`, `GuildRepository.keep` and `GuildRepository.settle` are the steps that do
  not belong to the store.
* `Stage` is how far a call has come, `Traffic` a repository with its calls, and `Move` a step of
  one of them.
* `Traffic.perform` is what a step makes of the repository and the calls.
* `Traffic.Running` says that a repository is connected, that no fault waits, and that time is
  counted in numbers.

## Main results

* `Traffic.after_fetch_alone` and `Traffic.after_save_alone` are about calls that run alone.
* `Traffic.Running.perform_cases` says what a step may come to, and `Traffic.Running.after` that
  steps keep a repository running.
-/

namespace CommandRouter

namespace GuildRepository

variable {repository : GuildRepository} {lifetime : Value}

/-! ### The steps of a call -/

/-- The first step of a fetch: what memory serves, or nothing, and then an eviction. -/
def look (now id : Value) : Action GuildRepository (Option (Option GuildSettings)) := do
  let repository ← Action.get
  if repository.source.connected then
    match ← Action.ofExcept (repository.served? now id) with
    | some cached => return some cached.settings
    | none =>
      change fun repository => repository.evict now
      return none
  else return some none

/-- What the first step of a fetch comes to. -/
theorem run_look (connected : repository.source.connected = true) (now id : Value) :
    look now id repository =
      match repository.served? now id with
      | .error fault => ⟨[], repository, .error fault⟩
      | .ok (some cached) => ⟨[], repository, .ok (some cached.settings)⟩
      | .ok none =>
        match repository.evict now with
        | .error fault => ⟨[], repository, .error fault⟩
        | .ok evicted => ⟨[], evicted, .ok none⟩ := by
  rw [look, Action.run_get_bind, if_pos connected]
  cases repository.served? now id with
  | error fault => rfl
  | ok found =>
    cases found with
    | some cached => rfl
    | none => exact run_change_bind _ _

/-- What is left of a fetch after its first step: nothing, or a statement and the last step. -/
def resume (now id : Value) :
    Option (Option GuildSettings) → Action GuildRepository (Option GuildSettings)
  | some settings => pure settings
  | none => onSource (RowSource.find id) >>= keep now id

/-- A fetch is its first step and what is left after it. -/
theorem fetch_eq_look_bind (now id : Value) : fetch now id = look now id >>= resume now id := by
  funext repository
  cases connected : repository.source.connected with
  | false =>
    have looked : look now id repository = ⟨[], repository, .ok (some none)⟩ := by
      rw [look, Action.run_get_bind, if_neg (by simp [connected])]
      rfl
    rw [run_fetch_of_not_connected connected, Action.run_bind_of_eq_ok looked]
    rfl
  | true =>
    have looked := run_look connected now id
    rw [run_fetch connected]
    cases served : repository.served? now id with
    | error fault =>
      rw [served] at looked
      exact (Action.run_bind_of_eq_error looked).symm
    | ok found =>
      rw [served] at looked
      cases found with
      | some cached =>
        rw [Action.run_bind_of_eq_ok looked]
        rfl
      | none =>
        cases evicting : repository.evict now with
        | error fault =>
          rw [evicting] at looked
          exact (Action.run_bind_of_eq_error looked).symm
        | ok evicted =>
          rw [evicting] at looked
          rw [Action.run_bind_of_eq_ok looked]
          rfl

/-- A save is a statement and its last step. -/
theorem save_eq_bind_settle (connected : repository.source.connected = true)
    (settings : GuildSettings) :
    save settings repository =
      (onSource (RowSource.upsert settings.toRecord ["id"]) >>= settle settings.id) repository := by
  rw [save, Action.run_get_bind, if_pos connected]

/-- Memory serves a guild, or nothing is served and the cache is cleared of what has expired. -/
theorem Dated.look_cases (dated : repository.Dated lifetime)
    (connected : repository.source.connected = true) {now : Value} (reading : IsReading now)
    (id : String) :
    (∃ cached, repository.cached? (.text id) = some cached ∧
        look now (.text id) repository = ⟨[], repository, .ok (some cached.settings)⟩) ∨
      look now (.text id) repository =
        ⟨[], { repository with
          cache := repository.cache.filter fun _ cached => !cached.isExpired now }, .ok none⟩ := by
  obtain ⟨time, isTime, finite⟩ := reading
  have evicting : repository.evict now = .ok { repository with
      cache := repository.cache.filter fun _ cached => !cached.isExpired now } := by
    refine evict_eq_ok fun cached held => ?_
    obtain ⟨expiry, isExpiry, -⟩ := dated.cached cached held
    exact ⟨_, Value.compare_of_number? .atMost isExpiry isTime⟩
  rw [run_look connected, served?, if_pos (by rfl)]
  cases held : repository.cached? (.text id) with
  | none =>
    dsimp only
    rw [evicting]
    exact Or.inr rfl
  | some cached =>
    obtain ⟨expiry, isExpiry, placed⟩ := dated.cached cached
      (List.mem_map.2 ⟨_, Table.mem_toList_iff.2 held, rfl⟩)
    dsimp only
    rw [Cached.isExpired_eq isExpiry placed isTime finite.isPlaced]
    cases cached.isExpired now with
    | true =>
      dsimp only [Except.map]
      rw [evicting]
      exact Or.inr rfl
    | false => exact Or.inl ⟨cached, rfl, rfl⟩

theorem run_settle_text (id : String) (row : Option Row) :
    settle (.text id) row repository =
      ⟨[], repository.forget (.text id), decode repository.room row⟩ := by
  rw [run_settle, invalidate_text]

end GuildRepository

/-- How far a call has come. -/
inductive Stage where
  /-- Memory has not served the guild of a fetch, and the store is still to be asked. -/
  | missed (now : Value) (id : String)
  /-- The store has answered a fetch. -/
  | answered (now : Value) (id : String) (row : Option Row)
  /-- The store has taken the row of a save. -/
  | stored (id : String) (row : Option Row)
  /-- The call has ended. -/
  | ended (result : Except Fault (Option GuildSettings))

namespace Stage

/-- The stage of a fetch after its first step. -/
def ofLook (now : Value) (id : String) : Except Fault (Option (Option GuildSettings)) → Stage
  | .ok (some settings) => ended (.ok settings)
  | .ok none => missed now id
  | .error fault => ended (.error fault)

/-- The stage of a call after the answer of the store. -/
def ofAnswer (next : Option Row → Stage) : Except Fault (Option Row) → Stage
  | .ok row => next row
  | .error fault => ended (.error fault)

/-- Whether the clock of a fetch that has not ended gave a finite reading. -/
def Timely : Stage → Prop
  | missed now _ => GuildRepository.IsReading now
  | answered now _ _ => GuildRepository.IsReading now
  | _ => True

end Stage

/-- A repository with the calls that are made of it, in the order in which they were begun. -/
structure Traffic where
  /-- The repository. -/
  repository : GuildRepository
  /-- How far the calls have come. -/
  calls : List Stage

/-- One step of one call. -/
inductive Move where
  /-- A fetch begins, and looks into the cache at a time. -/
  | fetch (now : Value) (id : String)
  /-- A fetch that memory has not served asks the store. -/
  | ask (call : Nat)
  /-- A save begins, and the store takes its row. -/
  | save (id : String) (prefixes aliases : Table String String)
  /-- A call that has the answer of the store takes its last step. -/
  | finish (call : Nat)

/-- Whether a step reads the clock at a finite time, if it does. -/
def Move.Timely : Move → Prop
  | fetch now _ => GuildRepository.IsReading now
  | _ => True

namespace Traffic

open GuildRepository

variable {traffic : Traffic} {engine : GuildEngine} {lifetime : Value}

/-- What a step makes of the repository and the calls. A call that is not at the step stays where it
is. -/
def perform (traffic : Traffic) : Move → Traffic
  | .fetch now id =>
    let looked := look now (.text id) traffic.repository
    ⟨looked.state, traffic.calls ++ [.ofLook now id looked.result]⟩
  | .ask call =>
    match traffic.calls[call]? with
    | some (.missed now id) =>
      let asked := onSource (RowSource.find (.text id)) traffic.repository
      ⟨asked.state, traffic.calls.set call (.ofAnswer (.answered now id) asked.result)⟩
    | _ => traffic
  | .save id prefixes aliases =>
    let settings := GuildSettings.ofTexts id prefixes aliases
    let stored := onSource (RowSource.upsert settings.toRecord ["id"]) traffic.repository
    ⟨stored.state, traffic.calls ++ [.ofAnswer (.stored id) stored.result]⟩
  | .finish call =>
    match traffic.calls[call]? with
    | some (.answered now id row) =>
      let kept := keep now (.text id) row traffic.repository
      ⟨kept.state, traffic.calls.set call (.ended kept.result)⟩
    | some (.stored id row) =>
      let settled := settle (.text id) row traffic.repository
      ⟨settled.state, traffic.calls.set call (.ended settled.result)⟩
    | _ => traffic

/-- What some steps make of the repository and the calls, one after another. -/
def after (traffic : Traffic) (moves : List Move) : Traffic := moves.foldl perform traffic

theorem after_cons (traffic : Traffic) (move : Move) (later : List Move) :
    traffic.after (move :: later) = (traffic.perform move).after later := rfl

theorem after_append (traffic : Traffic) (moves moves' : List Move) :
    traffic.after (moves ++ moves') = (traffic.after moves).after moves' := List.foldl_append

/-! ### Steps of calls that are at them -/

theorem perform_ask {call : Nat} {now : Value} {id : String}
    (h : traffic.calls[call]? = some (.missed now id)) {events : List Event}
    {state : GuildRepository} {answer : Except Fault (Option Row)}
    (asked : onSource (RowSource.find (.text id)) traffic.repository = ⟨events, state, answer⟩) :
    traffic.perform (.ask call) =
      ⟨state, traffic.calls.set call (.ofAnswer (.answered now id) answer)⟩ := by
  rw [perform, h]
  dsimp only
  rw [asked]

theorem perform_finish_of_answered {call : Nat} {now : Value} {id : String} {row : Option Row}
    (h : traffic.calls[call]? = some (.answered now id row)) :
    traffic.perform (.finish call) = ⟨(keep now (.text id) row traffic.repository).state,
      traffic.calls.set call (.ended (keep now (.text id) row traffic.repository).result)⟩ := by
  rw [perform, h]

theorem perform_finish_of_stored {call : Nat} {id : String} {row : Option Row}
    (h : traffic.calls[call]? = some (.stored id row)) :
    traffic.perform (.finish call) = ⟨(settle (.text id) row traffic.repository).state,
      traffic.calls.set call (.ended (settle (.text id) row traffic.repository).result)⟩ := by
  rw [perform, h]

/-- A call that is not to ask the store does not. -/
theorem perform_ask_of_ne {call : Nat}
    (h : ∀ now id, traffic.calls[call]? ≠ some (.missed now id)) :
    traffic.perform (.ask call) = traffic := by
  rw [perform]
  split
  · rename_i now id reached
    exact absurd reached (h now id)
  · rfl

/-- A call that has ended takes no more steps. -/
theorem perform_of_ended {call : Nat} {result : Except Fault (Option GuildSettings)}
    (h : traffic.calls[call]? = some (.ended result)) :
    traffic.perform (.ask call) = traffic ∧ traffic.perform (.finish call) = traffic := by
  rw [perform, perform, h]
  exact ⟨rfl, rfl⟩

/-! ### Calls that run alone -/

theorem getElem?_append_length (calls : List Stage) (stage : Stage) :
    (calls ++ [stage])[calls.length]? = some stage := List.getElem?_concat_length

theorem set_append_length (calls : List Stage) (stage stage' : Stage) :
    (calls ++ [stage]).set calls.length stage' = calls ++ [stage'] := by
  rw [List.set_append_right _ _ (Nat.le_refl _), Nat.sub_self]
  rfl

/-- **The steps of a fetch make up the fetch**, if no other call takes a step in between. -/
theorem after_fetch_alone (traffic : Traffic) (now : Value) (id : String) :
    traffic.after [.fetch now id, .ask traffic.calls.length, .finish traffic.calls.length] =
      ⟨(fetch now (.text id) traffic.repository).state,
        traffic.calls ++ [.ended (fetch now (.text id) traffic.repository).result]⟩ := by
  rw [after, List.foldl_cons, List.foldl_cons, List.foldl_cons, List.foldl_nil,
    fetch_eq_look_bind]
  have finished (state : GuildRepository) (result : Except Fault (Option GuildSettings)) :
      perform ⟨state, traffic.calls ++ [.ended result]⟩ (.finish traffic.calls.length) =
        ⟨state, traffic.calls ++ [.ended result]⟩ :=
    (perform_of_ended (getElem?_append_length _ _)).2
  have ended (state : GuildRepository) (result : Except Fault (Option GuildSettings)) :
      perform (perform ⟨state, traffic.calls ++ [.ended result]⟩ (.ask traffic.calls.length))
        (.finish traffic.calls.length) = ⟨state, traffic.calls ++ [.ended result]⟩ := by
    rw [(perform_of_ended (getElem?_append_length _ _)).1, finished]
  cases looked : look now (.text id) traffic.repository with
  | mk events state found =>
    have begun : traffic.perform (.fetch now id) =
        ⟨state, traffic.calls ++ [.ofLook now id found]⟩ := by
      rw [perform, looked]
    rw [begun]
    match found with
    | .error fault =>
      rw [Action.run_bind_of_eq_error looked]
      exact ended _ _
    | .ok (some settings) =>
      rw [Action.run_bind_of_eq_ok looked]
      exact ended _ _
    | .ok none =>
      rw [Action.run_bind_of_eq_ok looked, resume]
      cases asked : onSource (RowSource.find (.text id)) state with
      | mk events' state' answer =>
        have missed : (Traffic.mk state (traffic.calls ++ [.missed now id])).calls[
            traffic.calls.length]? = some (.missed now id) := getElem?_append_length _ _
        rw [Stage.ofLook, perform_ask missed asked, set_append_length]
        cases answer with
        | error fault =>
          rw [Action.run_bind_of_eq_error asked]
          exact finished _ _
        | ok row =>
          rw [Action.run_bind_of_eq_ok asked, Stage.ofAnswer,
            perform_finish_of_answered (getElem?_append_length _ _), set_append_length]

/-- **The steps of a save make up the save**, if no other call takes a step in between. -/
theorem after_save_alone (connected : traffic.repository.source.connected = true) (id : String)
    (prefixes aliases : Table String String) :
    traffic.after [.save id prefixes aliases, .finish traffic.calls.length] =
      ⟨(save (.ofTexts id prefixes aliases) traffic.repository).state, traffic.calls ++
        [.ended (save (.ofTexts id prefixes aliases) traffic.repository).result]⟩ := by
  rw [after, List.foldl_cons, List.foldl_cons, List.foldl_nil, save_eq_bind_settle connected]
  cases stored : onSource (RowSource.upsert
      (GuildSettings.ofTexts id prefixes aliases).toRecord ["id"]) traffic.repository with
  | mk events state answer =>
    have begun : traffic.perform (.save id prefixes aliases) =
        ⟨state, traffic.calls ++ [.ofAnswer (.stored id) answer]⟩ := by
      rw [perform, stored]
    rw [begun]
    cases answer with
    | error fault =>
      have last : (traffic.calls ++ [.ended (.error fault)])[traffic.calls.length]? =
          some (.ended (.error fault)) := getElem?_append_length _ _
      rw [Action.run_bind_of_eq_error stored]
      exact (perform_of_ended last).2
    | ok row =>
      rw [Action.run_bind_of_eq_ok stored, Stage.ofAnswer,
        perform_finish_of_stored (getElem?_append_length _ _), set_append_length]
      rfl

/-! ### What a step comes to -/

/-- The rows that are stored. -/
def rows (traffic : Traffic) : Rows := traffic.repository.source.store.rows

/-- Whether a repository is connected, no fault waits, and time is counted in numbers. -/
structure Running (traffic : Traffic) (engine : GuildEngine) (lifetime : Value) : Prop where
  /-- The source is one of guilds, without faults that wait. -/
  source : traffic.repository.source = .ofRows engine traffic.rows []
  /-- The expiries are on the line. -/
  dated : traffic.repository.Dated lifetime
  /-- The clocks gave finite readings. -/
  timely : ∀ stage ∈ traffic.calls, stage.Timely

namespace Running

theorem connected (running : traffic.Running engine lifetime) :
    traffic.repository.source.connected = true := by
  rw [running.source]
  rfl

/-- A fetch is answered with the row that is stored. -/
theorem perform_ask (running : traffic.Running engine lifetime) {call : Nat} {now : Value}
    {id : String} (reached : traffic.calls[call]? = some (.missed now id)) :
    traffic.perform (.ask call) = ⟨traffic.repository, traffic.calls.set call
      (.answered now id (RowSource.present (traffic.rows.row? id)))⟩ := by
  obtain ⟨answered, same⟩ := answer_lookup running.source id
  have found := run_onSource_find running.connected (.text id)
  rw [answered, same] at found
  exact Traffic.perform_ask reached found

/-- The row of a save is put in place. -/
theorem perform_save (running : traffic.Running engine lifetime) {id : String}
    {prefixes aliases : Table String String} {row : Row}
    (isRow :
      row = engine.stored traffic.rows (GuildSettings.ofTexts id prefixes aliases).toRecord) :
    traffic.perform (.save id prefixes aliases) =
      ⟨{ traffic.repository with source := .ofRows engine (traffic.rows.put id row) [] },
        traffic.calls ++ [.stored id (some row)]⟩ := by
  obtain ⟨answered, same⟩ :=
    answer_insertion running.source
      (rfl : (GuildSettings.ofTexts id prefixes aliases).id = .text id)
  have upserted :=
    run_onSource_upsert running.connected (GuildSettings.ofTexts id prefixes aliases)
  rw [answered, same, Except.map, engine.present_stored] at upserted
  rw [Traffic.perform, upserted, isRow]
  rfl

/-- **What a step may come to.** -/
theorem perform_cases {motive : Move → Traffic → Prop} (running : traffic.Running engine lifetime)
    (served : ∀ now id cached, traffic.repository.cached? (.text id) = some cached →
      motive (.fetch now id) ⟨traffic.repository, traffic.calls ++ [.ended (.ok cached.settings)]⟩)
    (missed : ∀ now id, IsReading now →
      motive (.fetch now id) ⟨{ traffic.repository with
          cache := traffic.repository.cache.filter fun _ cached => !cached.isExpired now },
        traffic.calls ++ [.missed now id]⟩)
    (asked : ∀ call now id, traffic.calls[call]? = some (.missed now id) →
      motive (.ask call) ⟨traffic.repository, traffic.calls.set call
        (.answered now id (RowSource.present (traffic.rows.row? id)))⟩)
    (stored : ∀ id prefixes aliases row,
      row = engine.stored traffic.rows (GuildSettings.ofTexts id prefixes aliases).toRecord →
        motive (.save id prefixes aliases)
          ⟨{ traffic.repository with source := .ofRows engine (traffic.rows.put id row) [] },
            traffic.calls ++ [.stored id (some row)]⟩)
    (failed : ∀ call now id row fault, traffic.calls[call]? = some (.answered now id row) →
      (decode traffic.repository.room row = .error fault ∨
        ∃ settings, decode traffic.repository.room row = .ok settings ∧
        traffic.repository.remember now (.text id) settings = .error fault) →
          motive (.finish call)
            ⟨traffic.repository, traffic.calls.set call (.ended (.error fault))⟩)
    (remembered : ∀ call now id row settings remembered,
      traffic.calls[call]? = some (.answered now id row) →
        decode traffic.repository.room row = .ok settings →
        traffic.repository.remember now (.text id) settings = .ok remembered →
          motive (.finish call) ⟨remembered, traffic.calls.set call (.ended (.ok settings))⟩)
    (settled : ∀ call id row, traffic.calls[call]? = some (.stored id row) →
      motive (.finish call) ⟨traffic.repository.forget (.text id),
        traffic.calls.set call (.ended (decode traffic.repository.room row))⟩)
    (unasked : ∀ call, motive (.ask call) traffic)
    (unfinished : ∀ call, motive (.finish call) traffic)
    {move : Move} (timely : move.Timely) : motive move (traffic.perform move) := by
  cases move with
  | fetch now id =>
    rw [perform]
    rcases running.dated.look_cases running.connected timely id with ⟨cached, held, looked⟩ | looked
    · rw [looked]
      exact served now id cached held
    · rw [looked]
      exact missed now id timely
  | ask call =>
    cases reached : traffic.calls[call]? with
    | none =>
      rw [perform, reached]
      exact unasked call
    | some stage =>
      cases stage with
      | missed now id =>
        rw [running.perform_ask reached]
        exact asked call now id reached
      | _ =>
        rw [perform, reached]
        exact unasked call
  | save id prefixes aliases =>
    rw [running.perform_save rfl]
    exact stored id prefixes aliases _ rfl
  | finish call =>
    cases reached : traffic.calls[call]? with
    | none =>
      rw [perform, reached]
      exact unfinished call
    | some stage =>
      cases stage with
      | answered now id row =>
        rw [perform_finish_of_answered reached, run_keep]
        cases decoded : decode traffic.repository.room row with
        | error fault => exact failed call now id row fault reached (Or.inl decoded)
        | ok settings =>
          dsimp only
          cases remembering : traffic.repository.remember now (.text id) settings with
          | error fault =>
            exact failed call now id row fault reached (Or.inr ⟨settings, decoded, remembering⟩)
          | ok changed =>
            exact remembered call now id row settings changed reached decoded remembering
      | stored id row =>
        rw [perform_finish_of_stored reached, run_settle_text]
        exact settled call id row reached
      | _ =>
        rw [perform, reached]
        exact unfinished call

/-- The source, the expiries and the clocks are all that counts. -/
theorem of_source {traffic' : Traffic}
    (source : ∃ rows, traffic'.repository.source = .ofRows engine rows [])
    (dated : traffic'.repository.Dated lifetime) (timely : ∀ stage ∈ traffic'.calls, stage.Timely) :
    traffic'.Running engine lifetime := by
  obtain ⟨rows, source⟩ := source
  refine ⟨?_, dated, timely⟩
  rw [Traffic.rows, source]
  rfl

theorem add (running : traffic.Running engine lifetime) {repository : GuildRepository}
    {stage : Stage} (source : ∃ rows, repository.source = .ofRows engine rows [])
    (dated : repository.Dated lifetime) (timely : stage.Timely) :
    Running ⟨repository, traffic.calls ++ [stage]⟩ engine lifetime := by
  refine of_source source dated fun stage' known => ?_
  rcases List.mem_append.1 known with old | new
  · exact running.timely stage' old
  · rw [List.mem_singleton.1 new]
    exact timely

theorem set (running : traffic.Running engine lifetime) {repository : GuildRepository} {call : Nat}
    {stage : Stage} (source : ∃ rows, repository.source = .ofRows engine rows [])
    (dated : repository.Dated lifetime) (timely : stage.Timely) :
    Running ⟨repository, traffic.calls.set call stage⟩ engine lifetime := by
  refine of_source source dated fun stage' known => ?_
  rcases List.mem_or_eq_of_mem_set known with old | rfl
  · exact running.timely stage' old
  · exact timely

/-- Running repositories stay so. -/
theorem perform (running : traffic.Running engine lifetime) (span : IsSpan lifetime) {move : Move}
    (timely : move.Timely) : (traffic.perform move).Running engine lifetime := by
  refine running.perform_cases (motive := fun _ traffic' => traffic'.Running engine lifetime)
    ?_ ?_ ?_ ?_ ?_ ?_ ?_ ?_ ?_ timely
  · intro now id cached _
    exact running.add ⟨_, running.source⟩ running.dated trivial
  · intro now id reading
    exact running.add ⟨_, running.source⟩ (running.dated.of_subset rfl fun _ =>
      Table.mem_values_of_mem_values_filter) reading
  · intro call now id missed
    have first := running.timely _ (List.mem_of_getElem? missed)
    exact running.set ⟨_, running.source⟩ running.dated first
  · intro id prefixes aliases row _
    exact running.add ⟨_, rfl⟩ (running.dated.of_subset rfl fun _ held => held) trivial
  · intro call now id row fault _ _
    exact running.set ⟨_, running.source⟩ running.dated trivial
  · intro call now id row settings remembered answered _ remembering
    have reading := running.timely _ (List.mem_of_getElem? answered)
    have source := source_of_remember remembering
    exact running.set ⟨_, source.trans running.source⟩
      (running.dated.remember span reading remembering) trivial
  · intro call id row _
    exact running.set ⟨_, running.source⟩ (running.dated.forget _) trivial
  · intro call
    exact running
  · intro call
    exact running

theorem after (running : traffic.Running engine lifetime) (span : IsSpan lifetime)
    {moves : List Move} (timely : ∀ move ∈ moves, move.Timely) :
    (traffic.after moves).Running engine lifetime := by
  induction moves generalizing traffic with
  | nil => exact running
  | cons move later ih =>
    obtain ⟨first, others⟩ := List.forall_mem_cons.1 timely
    exact ih (running.perform span first) others

end Running

end Traffic

end CommandRouter
