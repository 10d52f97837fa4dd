import CommandRouter.Proofs.Loggers

/-!
# The order of the loggers

Whatever is done with the loggers, some order is kept as long as the top logger is not set up. The
top logger has no handlers. Every other one is bare, or has one handler and the level of that
handler: only a set-up takes it from the first to the second, only a set-up or a new default level
changes the level, and nothing takes it back. And all loggers stand below names in front of their
dots.

## What a verdict is worth

A verdict is remembered until a level is set, while the hierarchy grows. It can go out of date only
if a logger above has a level. So as long as no logger above has been set up, a verdict says what
would be found out now: whether the level of the message is above zero, and reaches the level of the
logger, or the one of the top logger if the logger's own level says nothing. What is bare and comes
in between changes nothing.

## Main definitions

* `Logging.IsFree` says that no logger above a name has been set up.
* `Logging.Orderly` is the order that every operation preserves.

## Main results

* `Logging.Orderly.mention`, `Logging.Orderly.setUpAt`, `Logging.Orderly.setDefault` and
  `Logging.Orderly.remember` preserve the order.
* `Logging.Orderly.passes_eq` and `Logging.Orderly.emit_eq` say which messages are written.
-/

namespace CommandRouter

namespace Logging

variable {logging : Logging} {name other : String}

/-! ### The order of the loggers -/

/-- Whether no logger above a name has been set up. -/
def IsFree (logging : Logging) (name : String) : Prop :=
  ∀ above, IsAbove above name → (logging.logger above).given? = none

/-- The level that a message to a logger must reach if no logger above it has been set up: that of
the logger, or that of the top logger. -/
def ownLevel (logging : Logging) (name : String) : Level :=
  if (logging.logger name).level.rank = 0 then logging.top.level else (logging.logger name).level

/-- Whether a message passes a logger if no logger above it has been set up. -/
def reaches (logging : Logging) (name : String) (rank : Int) : Bool :=
  decide (0 < rank ∧ (logging.ownLevel name).rank ≤ rank)

/-- What every operation preserves, as long as the top logger is not set up. -/
structure Orderly (logging : Logging) : Prop where
  /-- The top logger has the level of warnings. -/
  top_level : logging.top.level = LogLevel.warning.level
  /-- It has no handlers. -/
  top_bare : logging.top.handlers = []
  /-- No other logger has its name. -/
  topless : ∀ name, isTop name = true → logging.logger? name = none
  /-- Every other logger is bare, or has one handler at its level. -/
  settled : ∀ name, isTop name = false → (logging.logger name).IsSettled
  /-- A logger stands below names in front of its dots. -/
  above : ∀ name above, (logging.logger name).above = some above → IsAbove above name
  /-- The verdicts of a logger are right if no logger above it has been set up. -/
  honest : ∀ name, isTop name = false → logging.IsFree name → ∀ rank verdict,
    (logging.logger name).verdicts.get? rank = some verdict → verdict = logging.reaches name rank

theorem isFree_mention : (logging.mention name).IsFree other ↔ logging.IsFree other := by
  simp only [IsFree, given?_mention]

theorem reaches_mention (rank : Int) :
    (logging.mention name).reaches other rank = logging.reaches other rank := by
  rw [reaches, reaches, ownLevel, ownLevel, level_mention, top_mention]

theorem isFree_remember {notice : Notice} :
    (logging.remember notice).IsFree other ↔ logging.IsFree other := by
  simp only [IsFree, given?_remember]

theorem reaches_remember (notice : Notice) (rank : Int) :
    (logging.remember notice).reaches other rank = logging.reaches other rank := by
  obtain ⟨_, kept⟩ := logger_remember logging notice other
  obtain ⟨_, top⟩ := top_remember logging notice
  rw [reaches, reaches, ownLevel, ownLevel, kept, top]

namespace Orderly

theorem initial (level : Level) : (Logging.initial level).Orderly where
  top_level := rfl
  top_bare := rfl
  topless _ _ := rfl
  settled name apart := by
    rw [logger_eq_getD apart]
    exact Logger.isSettled_bare none
  above name above found := by
    cases top : isTop name with
    | true => rw [logger_of_isTop top] at found; cases found
    | false => rw [logger_eq_getD top] at found; cases found
  honest name apart _ rank verdict found := by
    rw [logger_eq_getD apart] at found
    cases found

/-- The top logger has not been set up. -/
theorem given?_of_isTop (orderly : logging.Orderly) (top : isTop name = true) :
    (logging.logger name).given? = none := by
  rw [logger_of_isTop top, Logger.given?, Logger.isConfigured, orderly.top_bare]
  rfl

theorem mention (orderly : logging.Orderly) (name : String) : (logging.mention name).Orderly where
  top_level := by rw [top_mention, orderly.top_level]
  top_bare := by rw [top_mention, orderly.top_bare]
  topless other top := by
    rcases mention_cases logging name with same | ⟨apart, _, made⟩
    · rw [same, orderly.topless other top]
    · rw [made, logger?_create, if_neg (ne_of_isTop apart top), orderly.topless other top,
        Option.map_none]
  settled other apart := by
    rw [Logger.IsSettled, given?_mention, level_mention, handlers_mention]
    exact orderly.settled other apart
  above other above found := by
    obtain ⟨place, kept, below⟩ := logger_mention logging name other
    rw [kept] at found
    exact (below above found).elim (orderly.above other above) id
  honest other apart free rank verdict found := by
    rw [verdicts_mention] at found
    rw [reaches_mention]
    exact orderly.honest other apart (isFree_mention.1 free) rank verdict found

theorem setUpAt (orderly : logging.Orderly) (apart : isTop name = false) (level : Level) :
    (logging.setUpAt name level).Orderly where
  top_level := by
    rw [Logging.setUpAt]
    exact (congrArg Logger.level (top_replace apart _)).trans (orderly.mention name).top_level
  top_bare := by
    rw [Logging.setUpAt]
    exact (congrArg Logger.handlers (top_replace apart _)).trans (orderly.mention name).top_bare
  topless other top := by
    rw [Logging.setUpAt, logger?_forgetVerdicts, logger?_replace apart,
      if_neg (ne_of_isTop apart top), (orderly.mention name).topless other top, Option.map_none]
  settled other apart' := by
    rw [logger_setUpAt apart]
    split
    · exact ⟨rfl, rfl⟩
    · exact (orderly.mention name).settled other apart'
  above other above found := by
    have unmoved : ((logging.setUpAt name level).logger other).above =
        ((logging.mention name).logger other).above := by
      rw [logger_setUpAt apart]
      split <;> rfl
    exact (orderly.mention name).above other above (unmoved ▸ found)
  honest other _ _ rank verdict found := by
    -- No verdict outlives the setting of a level.
    rw [logger_setUpAt apart] at found
    cases found

/-! ### Moving loggers -/

/-- A logger that has been set up is not the top one. -/
theorem apart_of_given? (orderly : logging.Orderly) {level : Level}
    (given : (logging.logger name).given? = some level) : isTop name = false := by
  cases top : isTop name with
  | false => rfl
  | true =>
    rw [orderly.given?_of_isTop top] at given
    cases given

/-- A logger is passed over if it has not been set up, and is moved by being set up again. -/
theorem moveAll_cons (orderly : logging.Orderly) (value : Value) (name : String)
    (later : List String) :
    moveAll value (name :: later) logging =
      match (logging.logger name).given?, Level.ofValue value with
      | none, _ => moveAll value later (logging.mention name)
      | some _, .ok level => moveAll value later (logging.setUpAt name level)
      | some _, .error fault => (.error fault, logging.mention name) := by
  have mentioned := orderly.mention name
  rw [moveAll]
  cases given : (logging.logger name).given? with
  | none =>
    have bare : ((logging.mention name).logger name).isConfigured = false := by
      rw [← Logger.given?_eq_none_iff, given?_mention, given]
    simp only [bare, Bool.false_eq_true, if_false]
  | some old =>
    have apart := orderly.apart_of_given? given
    have configured : ((logging.mention name).logger name).isConfigured = true := by
      rw [← Bool.not_eq_false, ← Logger.given?_eq_none_iff, given?_mention, given]
      exact Option.some_ne_none old
    simp only [configured, if_true]
    cases Level.ofValue value with
    | error fault => rfl
    | ok level =>
      dsimp only
      rw [(mentioned.settled name apart).moved_eq configured, Logging.setUpAt]

/-- Moving loggers keeps the order, and those among them that have been set up have the new level
afterwards, if it is one. -/
theorem moveAll (value : Value) (names : List String) (orderly : logging.Orderly) :
    (Logging.moveAll value names logging).2.Orderly ∧
      ∀ other, ((Logging.moveAll value names logging).2.logger other).given? =
        if other ∈ names then
          (logging.logger other).given?.map (Level.ofValue value).toOption.getD
        else (logging.logger other).given? := by
  induction names generalizing logging with
  | nil => exact ⟨orderly, fun other => (if_neg List.not_mem_nil).symm⟩
  | cons name later ih =>
    rw [orderly.moveAll_cons]
    split
    · rename_i bare
      obtain ⟨kept, moved⟩ := ih (orderly.mention name)
      refine ⟨kept, fun other => ?_⟩
      rw [moved, given?_mention]
      by_cases same : other = name
      · subst same
        rw [bare, Option.map_none, ite_self, ite_self]
      · simp only [List.mem_cons, same, false_or]
    · rename_i level given taken
      have apart := orderly.apart_of_given? given
      obtain ⟨kept, moved⟩ := ih (orderly.setUpAt apart level)
      refine ⟨kept, fun other => ?_⟩
      rw [moved, given?_setUpAt apart, taken]
      by_cases same : name = other
      · subst same
        simp [given, Except.toOption]
      · simp only [List.mem_cons, Ne.symm same, false_or, if_neg same]
    · rename_i fault given refused
      refine ⟨orderly.mention name, fun other => ?_⟩
      have kept : (Except.error fault : Except Fault Level).toOption.getD = id := rfl
      rw [given?_mention, refused, kept, Option.map_id, id_eq, ite_self]

/-- **The loggers that have been set up move to a new default level**, and no other logger does. -/
theorem setDefault (orderly : logging.Orderly) (value : Value) :
    (logging.setDefault value).2.Orderly ∧
      ∀ name, ((logging.setDefault value).2.logger name).given? =
        (logging.logger name).given?.map (Level.ofValue value).toOption.getD := by
  have defaulted : ({ logging with defaultLevel := value } : Logging).Orderly :=
    ⟨orderly.top_level, orderly.top_bare, orderly.topless, orderly.settled, orderly.above,
      orderly.honest⟩
  obtain ⟨kept, moved⟩ := defaulted.moveAll value logging.known.keys
  refine ⟨kept, fun name => (moved name).trans ?_⟩
  have same : ({ logging with defaultLevel := value } : Logging).logger name =
      logging.logger name := rfl
  rw [same]
  split
  · rfl
  · rename_i unlisted
    cases given : (logging.logger name).given? with
    | none => rfl
    | some level =>
      have apart := orderly.apart_of_given? given
      exact absurd (mem_keys_of_given? apart (by rw [given]; rfl)) unlisted

/-! ### The way up -/

/-- A logger that has not been set up says nothing. -/
theorem bare_of_given? (orderly : logging.Orderly) (bare : (logging.logger name).given? = none) :
    (logging.logger name).handlers = [] ∧
      (isTop name = false → (logging.logger name).level = .unset) := by
  cases top : isTop name with
  | true =>
    rw [logger_of_isTop top]
    exact ⟨orderly.top_bare, fun apart => by cases apart⟩
  | false =>
    obtain ⟨level, handlers⟩ := orderly.settled name top
    rw [bare] at level handlers
    exact ⟨handlers, fun _ => level⟩

/-- Below loggers that have not been set up, the way up leads over bare loggers to the top. -/
theorem wayUp_eq (orderly : logging.Orderly) (free : logging.IsFree name) (fuel : Nat)
    (start : Option String) (above : ∀ a, start = some a → IsAbove a name) :
    ∃ bares, logging.wayUp fuel start = bares ++ [logging.top] ∧
      ∀ logger ∈ bares, logger.level = .unset ∧ logger.handlers = [] := by
  induction fuel generalizing start with
  | zero => exact ⟨[], by cases start <;> rfl, by simp⟩
  | succ fuel ih =>
    cases start with
    | none => exact ⟨[], rfl, by simp⟩
    | some a =>
      rw [wayUp]
      cases known : logging.logger? a with
      | none => exact ⟨[], rfl, by simp⟩
      | some logger =>
        have apart : isTop a = false := by
          cases top : isTop a with
          | false => rfl
          | true =>
            rw [orderly.topless a top] at known
            cases known
        have found := logger_eq_of_logger? apart known
        have here : IsAbove a name := above a rfl
        obtain ⟨handlers, level⟩ := orderly.bare_of_given? (free a here)
        obtain ⟨bares, way, bare⟩ := ih logger.above fun b higher =>
          (orderly.above a b (found ▸ higher)).trans here
        refine ⟨logger :: bares, ?_, ?_⟩
        · dsimp only
          rw [way, List.cons_append]
        · exact List.forall_mem_cons.2 ⟨found ▸ ⟨level apart, handlers⟩, bare⟩

/-- The way up from a known logger. -/
theorem chain_eq (orderly : logging.Orderly) (apart : isTop name = false)
    (known : (logging.logger? name).isSome = true) (free : logging.IsFree name) :
    ∃ bares, logging.chain name = logging.logger name :: bares ++ [logging.top] ∧
      ∀ logger ∈ bares, logger.level = .unset ∧ logger.handlers = [] := by
  obtain ⟨logger, known⟩ := Option.isSome_iff_exists.1 known
  have found := logger_eq_of_logger? apart known
  obtain ⟨bares, way, bare⟩ := orderly.wayUp_eq free name.length logger.above fun a higher =>
    orderly.above name a (found ▸ higher)
  refine ⟨bares, ?_, bare⟩
  rw [chain, apart, if_neg Bool.false_ne_true, wayUp, known, found]
  dsimp only
  rw [way, List.cons_append]

theorem effectiveLevel_eq (orderly : logging.Orderly) (apart : isTop name = false)
    (known : (logging.logger? name).isSome = true) (free : logging.IsFree name) :
    logging.effectiveLevel name = logging.ownLevel name := by
  obtain ⟨bares, way, bare⟩ := orderly.chain_eq apart known free
  have silent : (bares.map Logger.level).find? (fun level => level.rank != 0) = none := by
    rw [List.find?_eq_none]
    refine List.forall_mem_map.2 fun logger member => ?_
    rw [(bare logger member).1]
    decide
  rw [effectiveLevel, way, ownLevel, List.cons_append, List.map_cons, List.find?_cons,
    List.map_append, List.find?_append, silent, List.map_singleton, orderly.top_level]
  by_cases unset : (logging.logger name).level.rank = 0
  · rw [unset, if_pos rfl]
    rfl
  · rw [if_neg unset, bne_iff_ne.2 unset]
    rfl

/-- **A verdict is what would be found out now**, if no logger above has been set up. -/
theorem passes_eq (orderly : logging.Orderly) {notice : Notice}
    (apart : isTop notice.logger = false)
    (known : (logging.logger? notice.logger).isSome = true)
    (free : logging.IsFree notice.logger) :
    logging.passes notice = logging.reaches notice.logger notice.level.rank := by
  rw [passes]
  cases remembered : (logging.logger notice.logger).verdicts.get? notice.level.rank with
  | some verdict => exact orderly.honest notice.logger apart free _ verdict remembered
  | none =>
    rw [Option.getD_none, isEnabled, orderly.effectiveLevel_eq apart known free, reaches,
      Bool.decide_and]

theorem remember (orderly : logging.Orderly) {notice : Notice}
    (known : isTop notice.logger = false → (logging.logger? notice.logger).isSome = true) :
    (logging.remember notice).Orderly where
  top_level := by
    obtain ⟨_, top⟩ := top_remember logging notice
    rw [top, orderly.top_level]
  top_bare := by
    obtain ⟨_, top⟩ := top_remember logging notice
    rw [top, orderly.top_bare]
  topless name top := (logger?_remember notice top).trans (orderly.topless name top)
  settled name apart := by
    obtain ⟨_, kept⟩ := logger_remember logging notice name
    rw [kept]
    exact orderly.settled name apart
  above name above found := by
    obtain ⟨_, kept⟩ := logger_remember logging notice name
    rw [kept] at found
    exact orderly.above name above found
  honest name apart free rank verdict found := by
    have old := orderly.honest name apart (isFree_remember.1 free) rank verdict
    rw [reaches_remember]
    rw [verdicts_remember notice apart] at found
    split at found
    · rename_i same
      subst same
      rw [Table.get?_insert] at found
      split at found
      · -- The verdict is the one that is learned now.
        rename_i rank_eq
        cases found
        rw [← rank_eq]
        exact orderly.passes_eq apart (known apart) (isFree_remember.1 free)
      · exact old found
    · exact old found

/-- **A message to a logger that has been set up is written once or not at all**, if no logger above
it has been set up. -/
theorem emit_eq (orderly : logging.Orderly) {notice : Notice} {level : Level}
    (given : (logging.logger notice.logger).given? = some level)
    (free : logging.IsFree notice.logger) :
    logging.emit notice =
      if 0 < notice.level.rank ∧
          (logging.effectiveLevel notice.logger).rank ≤ notice.level.rank then
        [notice.record notice.logger]
      else [] := by
  have apart := orderly.apart_of_given? given
  have known := isSome_logger?_of_given? apart (by rw [given]; rfl)
  obtain ⟨bares, way, bare⟩ := orderly.chain_eq apart known free
  obtain ⟨own, handlers⟩ := orderly.settled notice.logger apart
  rw [given] at own handlers
  have silent : bares.flatMap Logger.handlers = [] :=
    List.flatMap_eq_nil_iff.2 fun logger member => (bare logger member).2
  have all : (logging.chain notice.logger).flatMap Logger.handlers = [level] := by
    rw [way, List.cons_append, List.flatMap_cons, List.flatMap_append, silent, handlers]
    simp [orderly.top_bare]
  rw [emit, orderly.passes_eq apart known free, orderly.effectiveLevel_eq apart known free,
    reaches, all, apart, if_neg Bool.false_ne_true]
  by_cases passes : 0 < notice.level.rank ∧
      (logging.ownLevel notice.logger).rank ≤ notice.level.rank
  · have reached : level.rank ≤ notice.level.rank := by
      obtain ⟨positive, high⟩ := passes
      rw [ownLevel, own] at high
      split at high
      · rename_i unset
        have zero : level.rank = 0 := unset
        omega
      · exact high
    simp [passes, reached]
  · simp [passes]

end Orderly

end Logging

end CommandRouter
