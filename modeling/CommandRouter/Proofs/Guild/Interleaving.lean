import CommandRouter.Proofs.Guild.Traffic

/-!
# Fetches among saves

A save tells the cache after the store has taken its row. Between these two steps memory may hold
something older, so nothing is promised to a fetch that begins while a save of its guild is running.
Otherwise a fetch should give what was saved last, or something that was saved after it began.

One thing stands in the way. A fetch may have the answer of the store before a save stores another
row, and remember that answer after the save has told the cache. Then nobody tells the cache again:
memory serves the old row until it expires. That is the only way. If all answers that wait are up to
date whenever the last running save of a guild tells the cache, memory is up to date from then on,
because a row changes only by the next save.

What a fetch comes to itself needs no such condition. The store answers it with a row that was there
when it began or was saved later, however the steps of other calls lie between its own.

## Main definitions

* `Traffic.Idle` says that no save of a guild is running, and `Traffic.UpToDate` that the answers
  that wait are what is stored.
* `Traffic.Orderly` asks for answers that are up to date whenever the last save tells the cache.
* `Traffic.Fresh` is the invariant, and `Traffic.Tracks` says what a fetch may have come to.
* `Row.Holds` says that a row is read as some settings, and `Settles` that it is the last of some
  saves that the row of a guild holds.

## Main results

* `Traffic.Running.fresh_perform` keeps the invariant, and `Traffic.Running.tracks_perform` follows
  a fetch, each for one step.
* `Traffic.ended_with_saved` is what a fetch gives in an orderly run.
* `Traffic.stale_after_save` is a run that is not orderly.
-/

namespace CommandRouter

namespace Traffic

open GuildRepository

variable {traffic : Traffic} {engine : GuildEngine} {lifetime : Value} {id : String}

/-! ### Saves that run, and fetches that have an answer -/

/-- Whether no save of a guild is running: the cache knows of every row of it that is stored. -/
def Idle (traffic : Traffic) (id : String) : Prop := ∀ row, .stored id row ∉ traffic.calls

/-- Whether all answers for a guild that wait to be remembered are what is stored. -/
def UpToDate (traffic : Traffic) (id : String) : Prop :=
  ∀ now row, .answered now id row ∈ traffic.calls → row = RowSource.present (traffic.rows.row? id)

/-- Whether all answers that wait are up to date whenever the last save of a guild that runs has
told the cache. -/
def Orderly (id : String) : Traffic → List Move → Prop
  | _, [] => True
  | traffic, move :: later =>
    (¬traffic.Idle id → (traffic.perform move).Idle id → (traffic.perform move).UpToDate id) ∧
      Orderly id (traffic.perform move) later

/-- Whether memory, and the answers that are about to go there, hold what is stored of a guild. -/
structure Fresh (traffic : Traffic) (id : String) : Prop where
  /-- What memory holds of the guild is what is stored. -/
  cached : ∀ cached, traffic.repository.cached? (.text id) = some cached →
    traffic.rows.settings traffic.repository.room id = .ok cached.settings
  /-- What was answered is what is stored. -/
  upToDate : traffic.UpToDate id

theorem mem_set_of_ne {calls : List Stage} {call : Nat} {stage stage' other : Stage}
    (reached : calls[call]? = some stage) (known : other ∈ calls) (differ : other ≠ stage) :
    other ∈ calls.set call stage' := by
  obtain ⟨position, found⟩ := List.mem_iff_getElem?.1 known
  have apart : call ≠ position := by
    rintro rfl
    exact differ (Option.some.inj (found.symm.trans reached))
  exact List.mem_iff_getElem?.2 ⟨position, by rw [List.getElem?_set_ne apart, found]⟩

/-- A step of a call that is not a running save leaves the running saves. -/
theorem Idle.of_set {repository : GuildRepository} {call : Nat} {stage stage' : Stage}
    (idle : Idle ⟨repository, traffic.calls.set call stage'⟩ id)
    (reached : traffic.calls[call]? = some stage) (differ : ∀ row, .stored id row ≠ stage) :
    traffic.Idle id :=
  fun row known => idle row (mem_set_of_ne reached known (differ row))

theorem Idle.of_add {repository : GuildRepository} {stage : Stage}
    (idle : Idle ⟨repository, traffic.calls ++ [stage]⟩ id) : traffic.Idle id :=
  fun row known => idle row (List.mem_append_left _ known)

/-- What is new in memory or among the answers has to be what is stored. -/
theorem Fresh.of_step (fresh : traffic.Fresh id) {traffic' : Traffic}
    (room : traffic'.repository.room = traffic.repository.room)
    (row : traffic'.rows.row? id = traffic.rows.row? id)
    (cached : ∀ cached, traffic'.repository.cached? (.text id) = some cached →
      traffic.repository.cached? (.text id) = some cached ∨
        traffic.rows.settings traffic.repository.room id = .ok cached.settings)
    (answered : ∀ now row, .answered now id row ∈ traffic'.calls →
      .answered now id row ∈ traffic.calls ∨ row = RowSource.present (traffic.rows.row? id)) :
    traffic'.Fresh id := by
  constructor
  · intro entry held
    rw [Rows.settings, row, room]
    exact (cached entry held).elim (fresh.cached entry) fun same => same
  · intro now answer waiting
    rw [row]
    exact (answered now answer waiting).elim (fresh.upToDate now answer) fun same => same

theorem cached?_filter {repository : GuildRepository} {p : Key → Cached → Bool} {cached : Cached}
    (held : GuildRepository.cached?
      { repository with cache := repository.cache.filter p } (.text id) = some cached) :
    repository.cached? (.text id) = some cached := by
  change (repository.cache.filter p).get? (.text id) = some cached at held
  rw [Table.get?_filter, Option.filter_eq_some_iff] at held
  exact held.1

theorem cached?_forget {repository : GuildRepository} {other : String} {cached : Cached}
    (held : (repository.forget (.text other)).cached? (.text id) = some cached) :
    id ≠ other ∧ repository.cached? (.text id) = some cached := by
  change (repository.cache.erase (.text other)).get? (.text id) = some cached at held
  rw [Table.get?_erase] at held
  split at held
  · cases held
  · rename_i differ
    exact ⟨fun same => differ (by rw [same]), held⟩

/-- What is remembered of a guild is what memory holds of it. -/
theorem settings_of_remember {repository remembered : GuildRepository} {now : Value}
    {settings : Option GuildSettings} {cached : Cached}
    (h : repository.remember now (.text id) settings = .ok remembered)
    (held : remembered.cached? (.text id) = some cached) : cached.settings = settings := by
  obtain ⟨expiry, _, same⟩ := map_eq_ok_iff.1 h
  cases same
  rw [cached?, Value.key?, Option.bind_some] at held
  dsimp only at held
  rw [Table.get?_insert_self] at held
  cases held
  rfl

/-- **Where no save of a guild runs, memory is up to date**, as long as the answers are that wait
whenever the last save of it has told the cache. -/
theorem Running.fresh_perform (running : traffic.Running engine lifetime) {move : Move}
    (timely : move.Timely) (fresh : traffic.Idle id → traffic.Fresh id)
    (orderly : ¬traffic.Idle id → (traffic.perform move).Idle id →
      (traffic.perform move).UpToDate id)
    (idle : (traffic.perform move).Idle id) : (traffic.perform move).Fresh id := by
  revert orderly idle
  refine running.perform_cases (motive := fun _ traffic' =>
    (¬traffic.Idle id → traffic'.Idle id → traffic'.UpToDate id) → traffic'.Idle id →
      traffic'.Fresh id) ?_ ?_ ?_ ?_ ?_ ?_ ?_ ?_ ?_ timely
  · intro _ _ _ _ _ idle
    refine (fresh idle.of_add).of_step rfl rfl (fun _ found => Or.inl found) fun _ _ waiting => ?_
    exact Or.inl ((List.mem_append.1 waiting).resolve_right (by simp))
  · intro _ _ _ _ idle
    refine (fresh idle.of_add).of_step rfl rfl (fun _ found => Or.inl (cached?_filter found))
      fun _ _ waiting => ?_
    exact Or.inl ((List.mem_append.1 waiting).resolve_right (by simp))
  · intro call now other missed _ idle
    refine (fresh (idle.of_set missed (by simp))).of_step rfl rfl (fun _ found => Or.inl found)
      fun _ _ waiting => ?_
    -- a new answer is what is stored at this very step
    refine (List.mem_or_eq_of_mem_set waiting).imp_right fun new => ?_
    cases new
    rfl
  · intro other _ _ row _ _ idle
    by_cases same : other = id
    · subst same
      -- the row changes, but then this save runs
      exact absurd (List.mem_append_right _ (List.mem_singleton.2 rfl)) (idle (some row))
    · refine (fresh idle.of_add).of_step rfl (Rows.row?_put_of_ne _ same _)
        (fun _ found => Or.inl found) fun _ _ waiting => ?_
      exact Or.inl ((List.mem_append.1 waiting).resolve_right (by simp))
  · intro call _ _ _ _ answered _ _ idle
    refine (fresh (idle.of_set answered (by simp))).of_step rfl rfl (fun _ found => Or.inl found)
      fun _ _ waiting => ?_
    exact Or.inl ((List.mem_or_eq_of_mem_set waiting).resolve_right (by simp))
  · intro call now other row settings remembered answered decoded remembering _ idle
    have before := fresh (idle.of_set answered (by simp))
    have source := source_of_remember remembering
    refine before.of_step (room_of_remember remembering) ?_ (fun entry held => ?_)
      fun _ _ waiting => ?_
    · show Rows.row? remembered.source.store.rows id = _
      rw [source]
      rfl
    · by_cases same : other = id
      · subst same
        -- memory gets an answer that is still what is stored
        rw [settings_of_remember remembering held, Rows.settings,
          ← before.upToDate now row (List.mem_of_getElem? answered)]
        exact Or.inr decoded
      · refine Or.inl (cached?_of_remember remembering ?_ held)
        rintro ⟨⟩
        exact same rfl
    · exact Or.inl ((List.mem_or_eq_of_mem_set waiting).resolve_right (by simp))
  · intro call other row stored orderly idle
    by_cases same : other = id
    · subst same
      -- the last save is over: nothing is left in memory, but the answers that wait will get there
      have busy : ¬traffic.Idle other := fun before => before row (List.mem_of_getElem? stored)
      exact ⟨fun entry held => absurd rfl (cached?_forget held).1, orderly busy idle⟩
    · have before : traffic.Idle id := idle.of_set stored (by rintro _ ⟨⟩; exact same rfl)
      refine (fresh before).of_step rfl rfl (fun _ held => Or.inl (cached?_forget held).2)
        fun _ _ waiting => ?_
      exact Or.inl ((List.mem_or_eq_of_mem_set waiting).resolve_right (by simp))
  · intro _ _ idle
    exact fresh idle
  · intro _ _ idle
    exact fresh idle

theorem Running.fresh_after (running : traffic.Running engine lifetime) (span : IsSpan lifetime)
    {moves : List Move} (timely : ∀ move ∈ moves, move.Timely)
    (fresh : traffic.Idle id → traffic.Fresh id) (orderly : Orderly id traffic moves)
    (idle : (traffic.after moves).Idle id) : (traffic.after moves).Fresh id := by
  induction moves generalizing traffic with
  | nil => exact fresh idle
  | cons move later ih =>
    obtain ⟨first, others⟩ := List.forall_mem_cons.1 timely
    obtain ⟨here, there⟩ := orderly
    exact ih (running.perform span first) others (running.fresh_perform first fresh here) there
      idle

/-! ### What was saved -/

end Traffic

/-- The settings of a guild that a step stores. -/
def Move.savedFor (id : String) : Move → List GuildSettings
  | save other prefixes aliases =>
    if other = id then [.ofTexts other prefixes aliases] else []
  | _ => []

/-- The settings of a guild that some steps store, one after another. -/
def savedFor (id : String) (moves : List Move) : List GuildSettings :=
  moves.flatMap (Move.savedFor id)

/-- Whether a row is read as some settings. -/
structure Row.Holds (row : Row) (settings : GuildSettings) : Prop where
  /-- The row has columns. -/
  present : RowSource.present (some row) = some row
  /-- The settings are read, however much room there is. -/
  readable : ∀ room, GuildRepository.decode room (some row) = .ok (some settings)

/-- The row in which settings that are made of texts are stored is read as these settings. -/
theorem GuildEngine.holds_stored (engine : GuildEngine) (rows : Rows) (id : String)
    (prefixes aliases : Table String String) :
    (engine.stored rows (GuildSettings.ofTexts id prefixes aliases).toRecord).Holds
      (.ofTexts id prefixes aliases) where
  present := engine.present_stored rows _
  readable room := by
    rw [GuildRepository.decode, engine.ofRow_stored, GuildSettings.ofRow_toRecord_ofTexts]
    rfl

/-- Whether the last of some saves is what the row of a guild holds, which was another row before if
there was no save. -/
def Settles (before : Option Row) : Option GuildSettings → Option Row → Prop
  | none, after => after = before
  | some last, after => ∃ row, after = some row ∧ row.Holds last

namespace Traffic

open GuildRepository

variable {traffic : Traffic} {engine : GuildEngine} {lifetime : Value} {id : String}

/-- Nothing but a save of a guild changes its row. -/
theorem Running.settles_perform (running : traffic.Running engine lifetime) (id : String)
    {move : Move}
    (timely : move.Timely) :
    Settles (traffic.rows.row? id) (move.savedFor id).getLast?
      ((traffic.perform move).rows.row? id) := by
  refine running.perform_cases (motive := fun move traffic' =>
    Settles (traffic.rows.row? id) (move.savedFor id).getLast? (traffic'.rows.row? id))
    ?_ ?_ ?_ ?_ ?_ ?_ ?_ ?_ ?_ timely
  · intro _ _ _ _
    rfl
  · intro _ _ _
    rfl
  · intro _ _ _ _
    rfl
  · intro other prefixes aliases row isRow
    by_cases same : other = id
    · subst same
      rw [Move.savedFor, if_pos rfl, isRow]
      exact ⟨_, Rows.row?_put_self _ _ _, engine.holds_stored _ _ _ _⟩
    · rw [Move.savedFor, if_neg same]
      exact Rows.row?_put_of_ne _ same _
  · intro _ _ _ _ _ _ _
    rfl
  · intro call now other row settings remembered _ _ remembering
    show Rows.row? remembered.source.store.rows id = _
    rw [source_of_remember remembering]
    rfl
  · intro _ _ _ _
    rfl
  · intro _
    rfl
  · intro _
    rfl

theorem Running.settles_after (running : traffic.Running engine lifetime) (span : IsSpan lifetime)
    (id : String) {moves : List Move} (timely : ∀ move ∈ moves, move.Timely) :
    Settles (traffic.rows.row? id) (savedFor id moves).getLast?
      ((traffic.after moves).rows.row? id) := by
  induction moves generalizing traffic with
  | nil => rfl
  | cons move later ih =>
    obtain ⟨first, others⟩ := List.forall_mem_cons.1 timely
    have saved : savedFor id (move :: later) = move.savedFor id ++ savedFor id later :=
      List.flatMap_cons
    have here := running.settles_perform id first
    have there := ih (running.perform span first) others
    rw [saved, List.getLast?_append]
    cases last : (savedFor id later).getLast? with
    | some settings =>
      rw [last] at there
      exact there
    | none =>
      rw [last] at there
      rwa [show (traffic.after (move :: later)).rows.row? id = _ from there]

/-! ### One fetch among other calls -/

/-- Whether a fetch has still to ask, or has come to one of some settings. -/
def Tracks (traffic : Traffic) (now : Value) (id : String) (call : Nat)
    (candidates : List GuildSettings) : Prop :=
  traffic.calls[call]? = some (.missed now id) ∨ ∃ settings ∈ candidates,
    (∃ row, traffic.calls[call]? = some (.answered now id (some row)) ∧ row.Holds settings) ∨
      traffic.calls[call]? = some (.ended (.ok (some settings)))

/-- Whether one of some settings of a guild is stored. -/
def Stores (traffic : Traffic) (id : String) (candidates : List GuildSettings) : Prop :=
  ∃ settings ∈ candidates, ∃ row, traffic.rows.row? id = some row ∧ row.Holds settings

variable {now expiry : Value} {call : Nat} {candidates : List GuildSettings}

/-- A fetch that has come to some settings can remember them. -/
theorem Running.exists_remember (running : traffic.Running engine lifetime)
    (expires : now.add lifetime = .ok expiry) (settings : Option GuildSettings) :
    ∃ remembered, traffic.repository.remember now (.text id) settings = .ok remembered := by
  rw [remember, running.dated.lifetime, expires]
  exact ⟨_, rfl⟩

theorem Tracks.add (tracks : traffic.Tracks now id call candidates) (repository : GuildRepository)
    (stage : Stage) : Tracks ⟨repository, traffic.calls ++ [stage]⟩ now id call candidates := by
  have kept {stage' : Stage} (h : traffic.calls[call]? = some stage') :
      (traffic.calls ++ [stage])[call]? = some stage' := by
    obtain ⟨bound, _⟩ := List.getElem?_eq_some_iff.1 h
    rw [List.getElem?_append_left bound, h]
  rcases tracks with missed | ⟨settings, candidate, ⟨row, answered, holds⟩ | ended⟩
  · exact Or.inl (kept missed)
  · exact Or.inr ⟨settings, candidate, Or.inl ⟨row, kept answered, holds⟩⟩
  · exact Or.inr ⟨settings, candidate, Or.inr (kept ended)⟩

/-- Steps of other calls leave a fetch where it is. -/
theorem Tracks.set_of_ne (tracks : traffic.Tracks now id call candidates)
    (repository : GuildRepository) {other : Nat} (differ : other ≠ call) (stage : Stage) :
    Tracks ⟨repository, traffic.calls.set other stage⟩ now id call candidates := by
  rwa [Tracks, List.getElem?_set_ne differ]

theorem getElem?_set_of_eq_some {stage : Stage} (reached : traffic.calls[call]? = some stage)
    (stage' : Stage) : (traffic.calls.set call stage')[call]? = some stage' := by
  obtain ⟨bound, _⟩ := List.getElem?_eq_some_iff.1 reached
  exact List.getElem?_set_self bound

/-- **A fetch comes to nothing but what is or was stored.** -/
theorem Running.tracks_perform (running : traffic.Running engine lifetime) {move : Move}
    (timely : move.Timely) (expires : now.add lifetime = .ok expiry)
    (stores : traffic.Stores id candidates) (tracks : traffic.Tracks now id call candidates) :
    (traffic.perform move).Tracks now id call candidates := by
  refine running.perform_cases (motive := fun _ traffic' => traffic'.Tracks now id call candidates)
    ?_ ?_ ?_ ?_ ?_ ?_ ?_ ?_ ?_ timely
  · intro _ _ _ _
    exact tracks.add _ _
  · intro _ _ _
    exact tracks.add _ _
  · intro other now' id' reached
    by_cases same : other = call
    · subst same
      refine Or.inr ?_
      rcases tracks with missed | ⟨_, _, ⟨_, answered, _⟩ | ended⟩
      · cases reached.symm.trans missed
        obtain ⟨settings, candidate, row, stored, holds⟩ := stores
        refine ⟨settings, candidate, Or.inl ⟨row, ?_, holds⟩⟩
        rw [stored, holds.present]
        exact getElem?_set_of_eq_some reached _
      · cases reached.symm.trans answered
      · cases reached.symm.trans ended
    · exact tracks.set_of_ne _ same _
  · intro _ _ _ _ _
    exact tracks.add _ _
  · intro other now' id' row fault reached unfinished
    by_cases same : other = call
    · subst same
      exfalso
      rcases tracks with missed | ⟨_, _, ⟨_, answered, holds⟩ | ended⟩
      · cases reached.symm.trans missed
      · cases reached.symm.trans answered
        -- neither decoding nor remembering can fail
        rcases unfinished with undecoded | ⟨settings', _, unremembered⟩
        · cases undecoded.symm.trans (holds.readable _)
        · obtain ⟨_, remembering⟩ := running.exists_remember expires settings'
          cases unremembered.symm.trans remembering
      · cases reached.symm.trans ended
    · exact tracks.set_of_ne _ same _
  · intro other now' id' row settings remembered reached decoded _
    by_cases same : other = call
    · subst same
      refine Or.inr ?_
      rcases tracks with missed | ⟨settings', candidate, ⟨_, answered, holds⟩ | ended⟩
      · cases reached.symm.trans missed
      · cases reached.symm.trans answered
        cases decoded.symm.trans (holds.readable _)
        exact ⟨settings', candidate, Or.inr (getElem?_set_of_eq_some reached _)⟩
      · cases reached.symm.trans ended
    · exact tracks.set_of_ne _ same _
  · intro other id' row reached
    by_cases same : other = call
    · subst same
      exfalso
      rcases tracks with missed | ⟨_, _, ⟨_, answered, _⟩ | ended⟩
      · cases reached.symm.trans missed
      · cases reached.symm.trans answered
      · cases reached.symm.trans ended
    · exact tracks.set_of_ne _ same _
  · intro _
    exact tracks
  · intro _
    exact tracks

theorem Tracks.mono (tracks : traffic.Tracks now id call candidates) {more : List GuildSettings}
    (h : ∀ settings ∈ candidates, settings ∈ more) : traffic.Tracks now id call more :=
  tracks.imp_right fun ⟨settings, candidate, come⟩ => ⟨settings, h settings candidate, come⟩

/-- What is stored was stored before, or it has just been saved. -/
theorem Running.stores_perform (running : traffic.Running engine lifetime) {move : Move}
    (timely : move.Timely) (stores : traffic.Stores id candidates) :
    (traffic.perform move).Stores id (candidates ++ move.savedFor id) := by
  have settles := running.settles_perform id timely
  cases saved : (move.savedFor id).getLast? with
  | none =>
    rw [saved] at settles
    obtain ⟨settings, candidate, row, stored, holds⟩ := stores
    exact ⟨settings, List.mem_append_left _ candidate, row, settles.trans stored, holds⟩
  | some settings =>
    rw [saved] at settles
    obtain ⟨row, stored, holds⟩ := settles
    exact ⟨settings, List.mem_append_right _ (List.mem_of_getLast? saved), row, stored, holds⟩

/-- However many steps of other calls there are, a fetch comes to nothing but what was stored when
it began, or saved since then. -/
theorem Running.tracks_after (running : traffic.Running engine lifetime) (span : IsSpan lifetime)
    {moves : List Move} (timely : ∀ move ∈ moves, move.Timely)
    (expires : now.add lifetime = .ok expiry)
    (stores : traffic.Stores id candidates) (tracks : traffic.Tracks now id call candidates) :
    (traffic.after moves).Stores id (candidates ++ savedFor id moves) ∧
      (traffic.after moves).Tracks now id call (candidates ++ savedFor id moves) := by
  induction moves generalizing traffic candidates with
  | nil =>
    show traffic.Stores id (candidates ++ []) ∧ traffic.Tracks now id call (candidates ++ [])
    rw [List.append_nil]
    exact ⟨stores, tracks⟩
  | cons move later ih =>
    obtain ⟨first, others⟩ := List.forall_mem_cons.1 timely
    have saved : savedFor id (move :: later) = move.savedFor id ++ savedFor id later :=
      List.flatMap_cons
    have stores' := running.stores_perform first stores
    have tracks' := (running.tracks_perform first expires stores tracks).mono
      fun settings candidate => List.mem_append_left (move.savedFor id) candidate
    rw [saved, ← List.append_assoc]
    exact ih (running.perform span first) others stores' tracks'

/-- A fetch that is given its turn ends, and with what it has come to. -/
theorem Running.ended_of_tracks (running : traffic.Running engine lifetime) (span : IsSpan lifetime)
    (expires : now.add lifetime = .ok expiry)
    (stores : traffic.Stores id candidates) (tracks : traffic.Tracks now id call candidates) :
    ∃ settings ∈ candidates, (traffic.after [.ask call, .finish call]).calls[call]? =
      some (.ended (.ok (some settings))) := by
  have finished {traffic : Traffic} (running : traffic.Running engine lifetime)
      {settings : GuildSettings}
      (come : (∃ row, traffic.calls[call]? = some (.answered now id (some row)) ∧
          row.Holds settings) ∨ traffic.calls[call]? = some (.ended (.ok (some settings)))) :
      (traffic.perform (.finish call)).calls[call]? = some (.ended (.ok (some settings))) := by
    rcases come with ⟨row, answered, holds⟩ | ended
    · obtain ⟨remembered, remembering⟩ := running.exists_remember expires (some settings)
      rw [perform_finish_of_answered answered, run_keep, holds.readable]
      dsimp only
      rw [remembering]
      exact getElem?_set_of_eq_some answered _
    · rwa [(perform_of_ended ended).2]
  show ∃ settings ∈ candidates,
    ((traffic.perform (.ask call)).perform (.finish call)).calls[call]? =
      some (.ended (.ok (some settings)))
  rcases tracks with missed | ⟨settings, candidate, come⟩
  · obtain ⟨settings, candidate, row, stored, holds⟩ := stores
    have running' : (traffic.perform (.ask call)).Running engine lifetime :=
      running.perform span trivial
    refine ⟨settings, candidate, finished running' (Or.inl ⟨row, ?_, holds⟩)⟩
    rw [running.perform_ask missed, stored, holds.present]
    exact getElem?_set_of_eq_some missed _
  · have unmoved : traffic.perform (.ask call) = traffic := by
      refine perform_ask_of_ne fun now' id' missed => ?_
      rcases come with ⟨_, answered, _⟩ | ended
      · cases missed.symm.trans answered
      · cases missed.symm.trans ended
    rw [unmoved]
    exact ⟨settings, candidate, finished running come⟩

/-- Where no save of a guild runs and memory is up to date, a fetch that begins has come to what is
stored, or it has still to ask. -/
theorem Running.tracks_fetch (running : traffic.Running engine lifetime) (fresh : traffic.Fresh id)
    (reading : IsReading now) {last : GuildSettings} {row : Row}
    (stored : traffic.rows.row? id = some row) (holds : row.Holds last) :
    (traffic.perform (.fetch now id)).Tracks now id traffic.calls.length [last] := by
  rw [Traffic.perform]
  rcases running.dated.look_cases running.connected reading id with ⟨cached, held, looked⟩ | looked
  · have same := fresh.cached cached held
    rw [Rows.settings, stored, holds.present, holds.readable] at same
    rw [looked]
    refine Or.inr ⟨last, List.mem_singleton.2 rfl, Or.inr ?_⟩
    rw [Except.ok.inj same]
    exact getElem?_append_length _ _
  · rw [looked]
    exact Or.inl (getElem?_append_length _ _)

/-! ### How traffic begins -/

/-- A repository with an empty cache, of which no calls have been made yet. -/
def start (store : GuildStore) (lifetime : Value) : Traffic :=
  ⟨⟨.ofRows store.engine store.rows [], lifetime, .empty, store.room⟩, []⟩

theorem running_start (store : GuildStore) (lifetime : Value) :
    (start store lifetime).Running store.engine lifetime :=
  .of_source ⟨store.rows, rfl⟩ ⟨rfl, by simp [start]⟩ (by simp [start])

theorem fresh_start (store : GuildStore) (lifetime : Value) (id : String) :
    (start store lifetime).Fresh id :=
  ⟨by simp [start, cached?, Value.key?], by simp [UpToDate, start]⟩

/-! ### Two runs -/

/-- Settings of a guild with one alias. -/
def aliasing (target : String) : GuildSettings := .ofTexts "7" .empty (.ofList [("p", target)])

/-- A save of these settings. -/
def storing (target : String) : Move := .save "7" .empty (.ofList [("p", target)])

/-- The row that stores them. -/
def aliasRow (target : String) : Row := .ofRecord (aliasing target).toRecord

theorem holds_aliasRow (target : String) : (aliasRow target).Holds (aliasing target) :=
  GuildEngine.inMemory.holds_stored .empty "7" .empty (.ofList [("p", target)])

/-- The beginning of traffic with a store in memory. -/
def begin (rows : Rows) : Traffic := start { GuildStore.empty with rows } (.int 300)

/-- A repository that has not remembered anything, with some rows and calls. -/
def unfilled (rows : Rows) (calls : List Stage) : Traffic :=
  ⟨⟨.ofRows .inMemory rows [], .int 300, .empty, .flat⟩, calls⟩

section Unfilled

variable {rows : Rows} {calls : List Stage} {target : String} {call : Nat}

theorem running_unfilled (timely : ∀ stage ∈ calls, stage.Timely) :
    (unfilled rows calls).Running .inMemory (.int 300) :=
  .of_source ⟨rows, rfl⟩ ⟨rfl, by simp [unfilled]⟩ timely

theorem perform_ask_unfilled (timely : ∀ stage ∈ calls, stage.Timely)
    (row : rows.row? "7" = some (aliasRow target)) {now : Value}
    (missed : calls[call]? = some (.missed now "7")) :
    (unfilled rows calls).perform (.ask call) =
      unfilled rows (calls.set call (.answered now "7" (some (aliasRow target)))) := by
  have reached : (unfilled rows calls).calls[call]? = some (.missed now "7") := missed
  have stored : (unfilled rows calls).rows.row? "7" = some (aliasRow target) := row
  rw [(running_unfilled timely).perform_ask reached, stored, (holds_aliasRow target).present]
  rfl

/-- The cache has nothing to forget. -/
theorem perform_finish_unfilled
    (stored : calls[call]? = some (.stored "7" (some (aliasRow target)))) :
    (unfilled rows calls).perform (.finish call) =
      unfilled rows (calls.set call (.ended (.ok (some (aliasing target))))) := by
  have reached : (unfilled rows calls).calls[call]? =
      some (.stored "7" (some (aliasRow target))) := stored
  rw [perform_finish_of_stored reached, run_settle_text, (holds_aliasRow target).readable]
  rfl

end Unfilled

/-- The steps of a fetch that has its answer before a save stores another row, and remembers it
after the save has told the cache. -/
def overtaken (target : String) : List Move :=
  [.fetch (.int 0) "7", .ask 0, storing target, .finish 1, .finish 0]

/-- What that fetch remembers is not what is stored. -/
theorem after_overtaken {rows : Rows} {old : String} (row : rows.row? "7" = some (aliasRow old))
    (new : String) :
    (begin rows).after (overtaken new) =
      ⟨⟨.ofRows .inMemory (rows.put "7" (aliasRow new)) [], .int 300,
          .ofList [(.text "7", ⟨.text "7", .int 300, some (aliasing old)⟩)], .flat⟩,
        [.ended (.ok (some (aliasing old))), .ended (.ok (some (aliasing new)))]⟩ := by
  have reading := isReading_int 0
  have missed : (begin rows).perform (.fetch (.int 0) "7") =
      unfilled rows [.missed (.int 0) "7"] := rfl
  have asked : (unfilled rows [.missed (.int 0) "7"]).perform (.ask 0) =
      unfilled rows [.answered (.int 0) "7" (some (aliasRow old))] :=
    perform_ask_unfilled (by simp [Stage.Timely, reading]) row rfl
  have stored : (unfilled rows [.answered (.int 0) "7" (some (aliasRow old))]).perform
      (storing new) = unfilled (rows.put "7" (aliasRow new))
        [.answered (.int 0) "7" (some (aliasRow old)), .stored "7" (some (aliasRow new))] :=
    (running_unfilled (by simp [Stage.Timely, reading])).perform_save rfl
  have settled : (unfilled (rows.put "7" (aliasRow new))
      [.answered (.int 0) "7" (some (aliasRow old)), .stored "7" (some (aliasRow new))]).perform
        (.finish 1) = unfilled (rows.put "7" (aliasRow new))
          [.answered (.int 0) "7" (some (aliasRow old)), .ended (.ok (some (aliasing new)))] :=
    perform_finish_unfilled rfl
  rw [overtaken, after_cons, missed, after_cons, asked, after_cons, stored, after_cons, settled,
    after_cons, perform_finish_of_answered rfl, run_keep, (holds_aliasRow old).readable]
  rfl

/-- The steps of a save, and of a fetch that begins before it and has its answer after it. -/
def inTime (target : String) : List Move :=
  [.fetch (.int 0) "7", storing target, .ask 0, .finish 1]

/-- A fetch that has a new row may wait while the save of that row tells the cache. -/
theorem orderly_inTime (rows : Rows) (new : String) :
    Orderly "7" (begin rows) (inTime new) ∧
      ((begin rows).after (inTime new)).Idle "7" := by
  have reading := isReading_int 0
  have row := Rows.row?_put_self rows "7" (aliasRow new)
  have missed : (begin rows).perform (.fetch (.int 0) "7") =
      unfilled rows [.missed (.int 0) "7"] := rfl
  have stored : (unfilled rows [.missed (.int 0) "7"]).perform (storing new) =
      unfilled (rows.put "7" (aliasRow new))
        [.missed (.int 0) "7", .stored "7" (some (aliasRow new))] :=
    (running_unfilled (by simp [Stage.Timely, reading])).perform_save rfl
  have asked : (unfilled (rows.put "7" (aliasRow new))
      [.missed (.int 0) "7", .stored "7" (some (aliasRow new))]).perform (.ask 0) =
        unfilled (rows.put "7" (aliasRow new))
          [.answered (.int 0) "7" (some (aliasRow new)), .stored "7" (some (aliasRow new))] :=
    perform_ask_unfilled (by simp [Stage.Timely, reading]) row rfl
  have settled : (unfilled (rows.put "7" (aliasRow new))
      [.answered (.int 0) "7" (some (aliasRow new)), .stored "7" (some (aliasRow new))]).perform
        (.finish 1) = unfilled (rows.put "7" (aliasRow new))
          [.answered (.int 0) "7" (some (aliasRow new)), .ended (.ok (some (aliasing new)))] :=
    perform_finish_unfilled rfl
  rw [inTime, Orderly, missed, Orderly, stored, Orderly, asked, Orderly, settled, Orderly,
    after_cons, missed, after_cons, stored, after_cons, asked, after_cons, settled]
  refine ⟨⟨fun busy => ?_, fun busy => ?_, fun _ idle => ?_, fun _ _ => ?_, trivial⟩, ?_⟩
  · exact absurd (by simp [Idle, begin, start]) busy
  · exact absurd (by simp [Idle, unfilled]) busy
  · exact absurd (by simp [unfilled]) (idle (some (aliasRow new)))
  · intro now answer waiting
    have same : answer = some (aliasRow new) := by
      have both : now = .int 0 ∧ answer = some (aliasRow new) := by simpa [unfilled] using waiting
      exact both.2
    have kept : (unfilled (rows.put "7" (aliasRow new)) [.answered (.int 0) "7"
        (some (aliasRow new)), .ended (.ok (some (aliasing new)))]).rows.row? "7" =
          some (aliasRow new) := row
    rw [same, kept, (holds_aliasRow new).present]
  · simp [Idle, after, unfilled]

/-! ### The whole of it -/

/-- **What is fetched after a save is what was saved last, or later.** It is enough that no save of
the guild is running when the fetch begins, and that no answer was out of date when the last one of
them told the cache. -/
theorem ended_with_saved {lifetime : Value} (span : IsSpan lifetime) (store : GuildStore)
    {earlier later : List Move}
    (timely : ∀ move ∈ earlier ++ later, move.Timely) {id : String} {last : GuildSettings}
    (saved : (savedFor id earlier).getLast? = some last)
    (idle : ((start store lifetime).after earlier).Idle id)
    (orderly : Orderly id (start store lifetime) earlier) {now expiry : Value}
    (reading : IsReading now) (expires : now.add lifetime = .ok expiry) :
    let begun := start store lifetime
    let call := (begun.after earlier).calls.length
    ∃ settings ∈ last :: savedFor id later,
      (begun.after
        (earlier ++ .fetch now id :: (later ++ [.ask call, .finish call]))).calls[call]? =
          some (.ended (.ok (some settings))) := by
  intro begun call
  obtain ⟨before, after⟩ := List.forall_mem_append.1 timely
  have starting := running_start store lifetime
  have running := starting.after span before
  have fresh := starting.fresh_after span before
    (fun _ => fresh_start store lifetime id) orderly idle
  have settles := starting.settles_after span id before
  rw [saved] at settles
  obtain ⟨row, stored, holds⟩ := settles
  have fetching : (Move.fetch now id).Timely := reading
  have running' := running.perform span fetching
  obtain ⟨stores, tracks⟩ := running'.tracks_after span after expires
    (running.stores_perform fetching ⟨last, List.mem_singleton.2 rfl, row, stored, holds⟩)
    (running.tracks_fetch fresh reading stored holds)
  rw [after_append, after_cons, after_append]
  exact (running'.after span after).ended_of_tracks span expires stores tracks

/-- A fetch that begins after the save may even be overtaken by another save. -/
theorem ended_with_saved_inTime :
    let begun := begin .empty
    let later := [storing "!ping", .finish 0]
    let call := (begun.after (inTime "!pong")).calls.length
    (begun.after (inTime "!pong")).Idle "7" ∧ Orderly "7" begun (inTime "!pong") ∧
      ∃ settings ∈ [aliasing "!pong", aliasing "!ping"],
        (begun.after (inTime "!pong" ++ .fetch (.int 1) "7" ::
          (later ++ [.ask call, .finish call]))).calls[call]? =
            some (.ended (.ok (some settings))) := by
  intro begun later call
  obtain ⟨orderly, idle⟩ := orderly_inTime .empty "!pong"
  have timely : ∀ move ∈ inTime "!pong" ++ later, move.Timely := by
    simp [inTime, later, storing, Move.Timely, isReading_int]
  exact ⟨idle, orderly, ended_with_saved (isSpan_int 300) .empty timely rfl idle orderly
    (isReading_int 1) rfl⟩

/-- **An invalidation may be lost.** A save has ended and no other is running, but what is fetched
afterwards is what was stored before the save. -/
theorem stale_after_save :
    let traffic := (begin (Rows.put .empty "7" (aliasRow "!ping"))).after (overtaken "!pong")
    savedFor "7" (overtaken "!pong") = [aliasing "!pong"] ∧
      traffic.calls[1]? = some (.ended (.ok (some (aliasing "!pong")))) ∧ traffic.Idle "7" ∧
      traffic.rows.settings traffic.repository.room "7" = .ok (some (aliasing "!pong")) ∧
      (fetch (.int 1) (.text "7") traffic.repository).result = .ok (some (aliasing "!ping")) ∧
      aliasing "!ping" ≠ aliasing "!pong" := by
  intro traffic
  have left : traffic = _ := after_overtaken (Rows.row?_put_self _ _ _) "!pong"
  have stored : Rows.settings ((Rows.put .empty "7" (aliasRow "!ping")).put "7" (aliasRow "!pong"))
      .flat "7" = .ok (some (aliasing "!pong")) := by
    rw [Rows.settings, Rows.row?_put_self, (holds_aliasRow "!pong").present]
    exact (holds_aliasRow "!pong").readable _
  have differ : aliasing "!ping" ≠ aliasing "!pong" := by
    intro same
    have targets := congrArg (fun settings => settings.aliases.get? (.text "p")) same
    change some (Value.text "!ping") = some (.text "!pong") at targets
    simp at targets
  rw [left]
  refine ⟨rfl, rfl, by simp [Idle], stored, ?_, differ⟩
  rw [run_fetch_of_isServed rfl rfl rfl]

end Traffic

end CommandRouter
