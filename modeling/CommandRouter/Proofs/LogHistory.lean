import CommandRouter.Proofs.LoggerOrder
import CommandRouter.Report

/-!
# One handler at the last level

In the course of time loggers are set up, often again and again, the default level changes, and
loggers are mentioned and logged through in between. However this happens, a logger that has been
set up has one handler, and its level and that of the handler are the one that was fixed last: by
the last set-up of the logger or by the last change of the default level, whichever came later.

So a message through such a logger is written once, or not at all if its level does not reach the
effective one, as long as no logger above it has been set up: the loggers above have no handlers
that could write it again.

## Levels below one

A message of level zero or below never passes a logger, whatever the level of the logger. So to
reach the effective level is not enough for a message of such a level.

## Refusals

A set-up with a value that is no level fixes nothing. Neither does such a value as the default
level, though it is the default from then on.

## Main definitions

* `Logging.Use` is one use of the log, and `Logging.after` the state after some of them.
* `Logging.WasSetUp` says that a logger has been set up in the course of them.
* `Logging.lastLevel?` is the level that was fixed last for a logger.

## Main results

* `Logging.Orderly.after` and `Logging.given?_after` say what some uses preserve and make of a
  logger, from `Logging.Orderly.step` and `Logging.given?_step` for one use.
* `Logging.application_eq_after` says that the router works in such a state.
* `Logging.one_handler_at_last_level` puts this together with the messages that are written.
-/

namespace CommandRouter

namespace Logging

/-- One use of the log. -/
inductive Use where
  /-- A logger is set up, at the level that a value gives or at the default level. -/
  | setUp (name : String) (level : Option Value)
  /-- A value becomes the default level. -/
  | setDefault (level : Value)
  /-- A logger is mentioned. -/
  | mention (name : String)
  /-- A message is logged. -/
  | log (notice : Notice)

/-- The state after a use. -/
def step (logging : Logging) : Use → Logging
  | .setUp name level => (logging.setUp name level).2
  | .setDefault level => (logging.setDefault level).2
  | .mention name => logging.mention name
  | .log notice => (logging.log notice).2

/-- The state after some uses. -/
def after (logging : Logging) (uses : List Use) : Logging := uses.foldl step logging

/-- Whether a logger has been set up in the course of some uses. -/
def WasSetUp (logging : Logging) (name : String) (uses : List Use) : Prop :=
  ∃ earlier level later, uses = earlier ++ .setUp name level :: later ∧
    ((logging.after earlier).setUp name level).1 = .ok ()

namespace Use

/-- Whether a use does not set up the top logger. -/
def SparesTop : Use → Prop
  | setUp name _ => isTop name = false
  | _ => True

instance (use : Use) : Decidable use.SparesTop :=
  match use with
  | setUp name _ => inferInstanceAs (Decidable (isTop name = false))
  | setDefault _ | mention _ | log _ => isTrue trivial

/-- The default level after a use. -/
def defaultAfter (default : Value) : Use → Value
  | setDefault level => level
  | _ => default

/-- The level at which a use sets a logger up. -/
def setsUp? (name : String) (default : Value) : Use → Option Level
  | setUp other level =>
    if other = name then (Level.ofValue (level.getD default)).toOption else none
  | _ => none

/-- The level that a use fixes for a logger that has been set up. -/
def fixes? (name : String) (default : Value) : Use → Option Level
  | setDefault level => (Level.ofValue level).toOption
  | use => use.setsUp? name default

end Use

/-- The level that is fixed last for a logger in the course of some uses. -/
def lastLevel? (name : String) (default : Value) : List Use → Option Level
  | [] => none
  | use :: later =>
    (lastLevel? name (use.defaultAfter default) later).or (use.fixes? name default)

variable {logging : Logging} {name : String} {use : Use} {uses : List Use}

/-! ### One use -/

theorem defaultLevel_setUpAt (logging : Logging) (name : String) (level : Level) :
    (logging.setUpAt name level).defaultLevel = logging.defaultLevel := by
  rw [setUpAt, defaultLevel_forgetVerdicts, defaultLevel_replace, defaultLevel_mention]

theorem defaultLevel_moveAll (value : Value) (names : List String) (logging : Logging) :
    (moveAll value names logging).2.defaultLevel = logging.defaultLevel := by
  induction names generalizing logging with
  | nil => rfl
  | cons name later ih =>
    rw [moveAll]
    split
    · split
      · rw [ih, defaultLevel_forgetVerdicts, defaultLevel_replace, defaultLevel_mention]
      · exact defaultLevel_mention logging name
    · rw [ih, defaultLevel_mention]

theorem defaultLevel_step (logging : Logging) (use : Use) :
    (logging.step use).defaultLevel = use.defaultAfter logging.defaultLevel := by
  cases use with
  | setUp name level =>
    rw [step, setUp]
    split
    · exact defaultLevel_setUpAt logging name _
    · exact defaultLevel_mention logging name
  | setDefault level => exact defaultLevel_moveAll level _ _
  | mention name => exact defaultLevel_mention logging name
  | log notice => exact (defaultLevel_replace _ _ _).trans (defaultLevel_mention logging _)

/-- Every use keeps the order. -/
theorem Orderly.step (orderly : logging.Orderly) (spares : use.SparesTop) :
    (logging.step use).Orderly := by
  cases use with
  | setUp name level =>
    rw [Logging.step, setUp]
    split
    · exact orderly.setUpAt spares _
    · exact orderly.mention name
  | setDefault level => exact (orderly.setDefault level).1
  | mention name => exact orderly.mention name
  | log notice => exact (orderly.mention notice.logger).remember isSome_logger?_mention

/-- **What a use makes of a logger**: it may set the logger up, and if the logger has been set up it
may move it. -/
theorem given?_step (orderly : logging.Orderly) (spares : use.SparesTop) (name : String) :
    ((logging.step use).logger name).given? =
      (use.setsUp? name logging.defaultLevel).or
        ((logging.logger name).given?.map (use.fixes? name logging.defaultLevel).getD) := by
  have kept : (logging.logger name).given? =
      (none : Option Level).or ((logging.logger name).given?.map (none : Option Level).getD) := by
    cases (logging.logger name).given? <;> rfl
  cases use with
  | setUp other level =>
    show ((logging.setUp other level).2.logger name).given? =
      (if other = name then _ else none : Option Level).or
        ((logging.logger name).given?.map (if other = name then _ else none : Option Level).getD)
    rw [setUp]
    cases Level.ofValue (level.getD logging.defaultLevel) with
    | error fault =>
      refine (given?_mention logging other name).trans (kept.trans ?_)
      split <;> rfl
    | ok level =>
      refine (given?_setUpAt spares level name).trans ?_
      split
      · rfl
      · exact kept
  | setDefault level =>
    refine ((orderly.setDefault level).2 name).trans ?_
    cases (logging.logger name).given? <;> rfl
  | mention other => exact (given?_mention logging other name).trans kept
  | log notice =>
    exact ((given?_remember _ notice name).trans
      (given?_mention logging notice.logger name)).trans kept

/-! ### Many uses -/

theorem Orderly.after (orderly : logging.Orderly) (spares : ∀ use ∈ uses, use.SparesTop) :
    (logging.after uses).Orderly := by
  induction uses generalizing logging with
  | nil => exact orderly
  | cons use later ih =>
    obtain ⟨here, rest⟩ := List.forall_mem_cons.1 spares
    exact ih (orderly.step here) rest

theorem fixes?_of_setsUp? {default : Value} {level : Level}
    (set : use.setsUp? name default = some level) : use.fixes? name default = some level := by
  cases use with
  | setDefault value => cases set
  | setUp other value => exact set
  | mention other => exact set
  | log notice => exact set

/-- A use sets a logger up if it is a set-up that is not refused. -/
theorem isSome_setsUp? :
    (use.setsUp? name logging.defaultLevel).isSome = true ↔
      ∃ level, use = .setUp name level ∧ (logging.setUp name level).1 = .ok () := by
  constructor
  · intro set
    cases use with
    | setUp other level =>
      have itself : other = name := by
        by_cases same : other = name
        · exact same
        · rw [Use.setsUp?, if_neg same] at set
          cases set
      subst itself
      refine ⟨level, rfl, ?_⟩
      rw [Use.setsUp?, if_pos rfl] at set
      rw [setUp]
      cases taken : Level.ofValue (level.getD logging.defaultLevel) with
      | error fault => rw [taken] at set; cases set
      | ok level => rfl
    | setDefault value => cases set
    | mention other => cases set
    | log notice => cases set
  · rintro ⟨level, rfl, accepted⟩
    rw [setUp] at accepted
    rw [Use.setsUp?, if_pos rfl]
    cases taken : Level.ofValue (level.getD logging.defaultLevel) with
    | error fault => rw [taken] at accepted; cases accepted
    | ok level => rfl

theorem WasSetUp.mem (set : logging.WasSetUp name uses) : ∃ level, .setUp name level ∈ uses := by
  obtain ⟨earlier, level, later, rfl, _⟩ := set
  exact ⟨level, List.mem_append_right _ List.mem_cons_self⟩

theorem wasSetUp_cons {later : List Use} :
    logging.WasSetUp name (use :: later) ↔
      (use.setsUp? name logging.defaultLevel).isSome = true ∨
        (logging.step use).WasSetUp name later := by
  rw [isSome_setsUp?]
  constructor
  · rintro ⟨earlier, level, rest, split, accepted⟩
    cases earlier with
    | nil =>
      cases split
      exact .inl ⟨level, rfl, accepted⟩
    | cons first earlier =>
      cases split
      exact .inr ⟨earlier, level, rest, rfl, accepted⟩
  · rintro (⟨level, rfl, accepted⟩ | ⟨earlier, level, rest, rfl, accepted⟩)
    · exact ⟨[], level, later, rfl, accepted⟩
    · exact ⟨use :: earlier, level, rest, rfl, accepted⟩

/-- A logger that has been set up before is moved to the last level. -/
theorem given?_after_of_given? (orderly : logging.Orderly) (spares : ∀ use ∈ uses, use.SparesTop)
    {level : Level} (given : (logging.logger name).given? = some level) :
    ((logging.after uses).logger name).given? =
      some ((lastLevel? name logging.defaultLevel uses).getD level) := by
  induction uses generalizing logging level with
  | nil => exact given
  | cons use later ih =>
    obtain ⟨here, rest⟩ := List.forall_mem_cons.1 spares
    have moved : ((logging.step use).logger name).given? =
        some ((use.fixes? name logging.defaultLevel).getD level) := by
      rw [given?_step orderly here, given]
      cases set : use.setsUp? name logging.defaultLevel with
      | none => rfl
      | some _ => rw [fixes?_of_setsUp? set]; rfl
    refine (ih (orderly.step here) rest moved).trans ?_
    rw [defaultLevel_step, lastLevel?]
    cases lastLevel? name (use.defaultAfter logging.defaultLevel) later <;> rfl

/-- **A logger that was set up has the last level.** -/
theorem given?_after (orderly : logging.Orderly) (spares : ∀ use ∈ uses, use.SparesTop)
    (set : logging.WasSetUp name uses) :
    ∃ last, lastLevel? name logging.defaultLevel uses = some last ∧
      ((logging.after uses).logger name).given? = some last := by
  induction uses generalizing logging with
  | nil =>
    obtain ⟨earlier, level, later, split, _⟩ := set
    cases earlier <;> cases split
  | cons use later ih =>
    obtain ⟨here, rest⟩ := List.forall_mem_cons.1 spares
    rw [lastLevel?, ← defaultLevel_step]
    rcases wasSetUp_cons.1 set with now | afterwards
    · obtain ⟨level, now⟩ := Option.isSome_iff_exists.1 now
      have given : ((logging.step use).logger name).given? = some level := by
        rw [given?_step orderly here, now, Option.some_or]
      refine ⟨_, ?_, given?_after_of_given? (orderly.step here) rest given⟩
      rw [fixes?_of_setsUp? now]
      cases lastLevel? name (logging.step use).defaultLevel later <;> rfl
    · obtain ⟨last, fixed, given⟩ := ih (orderly.step here) rest afterwards
      exact ⟨last, by rw [fixed, Option.some_or], given⟩

/-- A logger that has not been set up is bare. -/
theorem given?_after_eq_none (orderly : logging.Orderly) (spares : ∀ use ∈ uses, use.SparesTop)
    (bare : (logging.logger name).given? = none) (unset : ¬logging.WasSetUp name uses) :
    ((logging.after uses).logger name).given? = none := by
  induction uses generalizing logging with
  | nil => exact bare
  | cons use later ih =>
    obtain ⟨here, rest⟩ := List.forall_mem_cons.1 spares
    rw [wasSetUp_cons, not_or, Bool.not_eq_true, Option.isSome_eq_false_iff,
      Option.isNone_iff_eq_none] at unset
    refine ih (orderly.step here) rest ?_ unset.2
    rw [given?_step orderly here, unset.1, bare]
    rfl

/-- The loggers of the router are set up one after another at the default level. -/
theorem setUpAll_eq_after (names : List String) {level : Level}
    (default : logging.defaultLevel = level.toValue) :
    logging.setUpAll names level = logging.after (names.map fun name => .setUp name none) := by
  induction names generalizing logging with
  | nil => rfl
  | cons name later ih =>
    have here : logging.step (.setUp name none) = logging.setUpAt name level := by
      rw [step, setUp, Option.getD_none, default, Level.ofValue_toValue]
    have next : (logging.setUpAt name level).defaultLevel = level.toValue :=
      (defaultLevel_setUpAt logging name level).trans default
    show (logging.setUpAt name level).setUpAll later level =
      (logging.step (.setUp name none)).after (later.map fun name => .setUp name none)
    rw [here, ih next]

/-- The state in which a router works is one after some uses. -/
theorem application_eq_after (debug : Bool) :
    application debug = (initial (startingLevel debug)).after
      ((lastingNames ++ partNames).map fun name => .setUp name none) := by
  have all : application debug =
      (initial (startingLevel debug)).setUpAll (lastingNames ++ partNames) (startingLevel debug) :=
    List.foldl_append.symm
  rw [all, setUpAll_eq_after _ rfl]

/-- **One handler at the last level.** Whatever uses are made of the log, as long as the top logger
is not set up: every logger that has been set up has one handler, and its level and that of the
handler are the last one that was fixed. A message through such a logger is written exactly once if
its level is above zero and reaches the effective one, and not at all otherwise, as long as no
logger above has been set up. What has not been set up is never changed by a new default level. -/
theorem one_handler_at_last_level (level : Level) {uses : List Use}
    (spares : ∀ use ∈ uses, use.SparesTop) :
    let start := initial level
    let logging := start.after uses
    (∀ name, start.WasSetUp name uses →
        ∃ last, lastLevel? name level.toValue uses = some last ∧
          (logging.logger name).level = last ∧ (logging.logger name).handlers = [last]) ∧
      (∀ notice : Notice, start.WasSetUp notice.logger uses →
        (∀ above, IsAbove above notice.logger → ¬start.WasSetUp above uses) →
        (logging.log notice).1 =
          if 0 < notice.level.rank ∧
              (logging.effectiveLevel notice.logger).rank ≤ notice.level.rank then
            [notice.record notice.logger]
          else []) ∧
      ∀ name, ¬start.WasSetUp name uses → ∀ value,
        ((logging.setDefault value).2.logger name).level = (logging.logger name).level ∧
          ((logging.setDefault value).2.logger name).handlers =
            (logging.logger name).handlers := by
  intro start logging
  have first : start.Orderly := .initial level
  have orderly : logging.Orderly := first.after spares
  have bare {name : String} (unset : ¬start.WasSetUp name uses) :
      (logging.logger name).given? = none := by
    refine given?_after_eq_none first spares ?_ unset
    cases top : isTop name with
    | true => exact first.given?_of_isTop top
    | false => rw [logger_eq_getD top]; rfl
  refine ⟨fun name set => ?_, fun notice set free => ?_, fun name unset value => ?_⟩
  · obtain ⟨last, fixed, given⟩ := given?_after first spares set
    obtain ⟨own, handlers⟩ := orderly.settled name (orderly.apart_of_given? given)
    rw [given] at own handlers
    exact ⟨last, fixed, own, handlers⟩
  · obtain ⟨last, _, given⟩ := given?_after first spares set
    have known := isSome_logger?_of_given? (orderly.apart_of_given? given) (by rw [given]; rfl)
    rw [log, mention_of_isSome known]
    exact orderly.emit_eq given fun above higher => bare (free above higher)
  · obtain ⟨moved, changed⟩ := orderly.setDefault value
    have still : ((logging.setDefault value).2.logger name).given? = none := by
      rw [changed, bare unset, Option.map_none]
    obtain ⟨handlers, own⟩ := orderly.bare_of_given? (bare unset)
    obtain ⟨handlers', own'⟩ := moved.bare_of_given? still
    refine ⟨?_, by rw [handlers, handlers']⟩
    cases top : isTop name with
    | true =>
      rw [logger_of_isTop top, logger_of_isTop top, moved.top_level, orderly.top_level]
    | false => rw [own top, own' top]

/-- A logger below a bare one that is moved after a message has been turned away. -/
theorem one_handler_moved :
    let uses : List Use := [.mention "bot", .setUp "bot.loader" none,
      .log (.debug "bot.loader" "first"), .setDefault LogLevel.debug.level.toValue]
    let logging := (initial LogLevel.info.level).after uses
    (∃ last, lastLevel? "bot.loader" LogLevel.info.level.toValue uses = some last ∧
        (logging.logger "bot.loader").level = last ∧
          (logging.logger "bot.loader").handlers = [last]) ∧
      (logging.log (.debug "bot.loader" "second")).1 = [⟨"DEBUG", "[bot.loader] second"⟩] ∧
      ((logging.setDefault (.int 50)).2.logger "bot").level = (logging.logger "bot").level := by
  intro uses logging
  have ⟨levels, written, bare⟩ := one_handler_at_last_level LogLevel.info.level
    (show ∀ use ∈ uses, use.SparesTop by decide)
  have set : (initial LogLevel.info.level).WasSetUp "bot.loader" uses :=
    ⟨[.mention "bot"], none, [.log (.debug "bot.loader" "first"),
      .setDefault LogLevel.debug.level.toValue], rfl, rfl⟩
  have only {name : String} (set : (initial LogLevel.info.level).WasSetUp name uses) :
      name = "bot.loader" := by
    obtain ⟨level, member⟩ := set.mem
    have both : name = "bot.loader" ∧ level = none := by simpa [uses] using member
    exact both.1
  refine ⟨levels "bot.loader" set, ?_, ?_⟩
  · rw [written (.debug "bot.loader" "second") set fun above higher set' => higher.ne (only set')]
    decide
  · refine (bare "bot" (fun set' => ?_) (.int 50)).1
    have wrong := only set'
    contradiction

/-- A message of a level below zero is not written, though it reaches the effective level. -/
theorem not_written_below_zero :
    let uses : List Use := [.setUp "a" (some (.int (-10)))]
    let start := initial LogLevel.info.level
    let logging := start.after uses
    let notice : Notice := ⟨"a", .number (-5), "x"⟩
    start.WasSetUp "a" uses ∧ (∀ above, IsAbove above "a" → ¬start.WasSetUp above uses) ∧
      (logging.effectiveLevel "a").rank ≤ notice.level.rank ∧ (logging.log notice).1 = [] := by
  refine ⟨⟨[], some (.int (-10)), [], rfl, rfl⟩, fun above higher set => ?_, by decide, by decide⟩
  obtain ⟨level, member⟩ := set.mem
  exact higher.ne (Use.setUp.inj (List.mem_singleton.1 member)).1

end Logging

end CommandRouter
