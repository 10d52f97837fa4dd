import CommandRouter.Logging
import CommandRouter.Table.Lemmas

/-!
# What happens to a logger

Loggers are mentioned, set up, and logged through. A logger is bare until it is set up, and then has
one handler and the level of that handler. To move such a logger to another level is to set it up
again.

## What growing changes

A logger that comes into being is bare. The loggers that stood below it may be put elsewhere in the
hierarchy, and that is all that changes for them: the level, the handlers and the verdicts of every
logger are what they were. A logger is always put below a name that is in front of one of its own
dots.

## What setting up and logging change

A logger that is set up gets its level and its handler, and all loggers lose their verdicts. A
logger that is logged through gets a verdict. No other logger has a part in this.

## Main definitions

* `IsAbove` says that a name stands in front of a dot of another one.
* `Logger.given?` is the level at which a logger has been set up or moved last, if it has been set
  up.
* `Logger.IsSettled` says that a logger is in one of the two states.

## Main results

* `Logging.logger_mention`, `Logging.logger_setUpAt` and `Logging.logger_remember` say what the
  operations make of a logger.
-/

namespace CommandRouter

/-! ### Names above others -/

/-- Whether a name stands in front of a dot of another one. -/
def IsAbove (above name : String) : Prop := ∃ rest, name = above ++ "." ++ rest

theorem IsAbove.trans {a b c : String} (first : IsAbove a b) (second : IsAbove b c) :
    IsAbove a c := by
  obtain ⟨r, rfl⟩ := first
  obtain ⟨s, rfl⟩ := second
  exact ⟨r ++ "." ++ s, by simp only [String.append_assoc]⟩

theorem IsAbove.ne {above name : String} (h : IsAbove above name) : above ≠ name := by
  rintro rfl
  obtain ⟨rest, same⟩ := h
  have count := congrArg String.length same
  rw [String.length_append, String.length_append] at count
  have dot : ".".length = 1 := rfl
  omega

theorem exists_eq_of_mem_cutsAbove {cs cut : List Char} (member : cut ∈ cutsAbove cs) :
    ∃ rest, cs = rest ++ '.' :: cut := by
  fun_induction cutsAbove cs with
  | case1 c cs ih =>
    rcases List.mem_cons.1 member with rfl | later
    · exact ⟨[], rfl⟩
    · obtain ⟨rest, rfl⟩ := ih later
      exact ⟨'.' :: c :: rest, rfl⟩
  | case2 c cs _ ih =>
    obtain ⟨rest, rfl⟩ := ih member
    exact ⟨c :: rest, rfl⟩
  | case3 => cases member

/-- The names above the name of a logger stand in front of its dots. -/
theorem isAbove_of_mem_namesAbove {above name : String} (member : above ∈ namesAbove name) :
    IsAbove above name := by
  obtain ⟨cut, cuts, rfl⟩ := List.mem_map.1 member
  obtain ⟨rest, split⟩ := exists_eq_of_mem_cutsAbove cuts
  refine ⟨String.ofList rest.reverse, String.toList_injective ?_⟩
  rw [← List.reverse_reverse name.toList, split]
  simp

/-! ### The states of a logger -/

namespace Logger

/-- The level of a logger that has been set up. -/
def given? (logger : Logger) : Option Level :=
  if logger.isConfigured then some logger.level else none

/-- Whether a logger is bare, or has one handler and the level of that handler. -/
def IsSettled (logger : Logger) : Prop :=
  logger.level = logger.given?.getD .unset ∧ logger.handlers = logger.given?.toList

theorem isSettled_bare (above : Option String) : (bare above).IsSettled := ⟨rfl, rfl⟩

theorem given?_eq_none_iff {logger : Logger} :
    logger.given? = none ↔ logger.isConfigured = false := by
  rw [given?]
  cases logger.isConfigured <;> simp

/-- A logger that has been set up is moved as if it were set up again. -/
theorem IsSettled.moved_eq {logger : Logger} (settled : logger.IsSettled)
    (configured : logger.isConfigured = true) (level : Level) :
    logger.moved level = logger.configured level := by
  have one : logger.handlers = [logger.level] := by
    rw [settled.2, given?, if_pos configured, Option.toList_some]
  rw [moved, Logger.configured, one, List.map_singleton]

end Logger

namespace Logging

variable {logging : Logging} {name other : String}

/-! ### Growing -/

theorem logger_of_isTop (top : isTop name = true) : logging.logger name = logging.top :=
  if_pos top

theorem logger_eq_getD (apart : isTop name = false) :
    logging.logger name = (logging.logger? name).getD (.bare none) :=
  if_neg (by rw [apart]; exact Bool.false_ne_true)

theorem logger_eq_of_logger? (apart : isTop name = false) {logger : Logger}
    (known : logging.logger? name = some logger) : logging.logger name = logger := by
  rw [logger_eq_getD apart, known, Option.getD_some]

theorem ne_of_isTop (apart : isTop name = false) (top : isTop other = true) : name ≠ other := by
  rintro rfl
  rw [apart] at top
  cases top

theorem logger?_reserve (logging : Logging) (name other : String) :
    (logging.reserve name).logger? other = logging.logger? other := by
  rw [reserve]
  split
  · rfl
  · rename_i absent
    have unknown : logging.known.get? name = none := by
      simpa [Table.contains] using absent
    rw [logger?, Table.get?_insert]
    split
    · rename_i same
      rw [← same, logger?, unknown]
      rfl
    · rfl

theorem logger?_foldl_reserve (names : List String) (logging : Logging) (other : String) :
    (names.foldl reserve logging).logger? other = logging.logger? other := by
  induction names generalizing logging with
  | nil => rfl
  | cons name later ih => exact (ih _).trans (logger?_reserve logging name other)

theorem foldl_reserve (names : List String) (logging : Logging) :
    (names.foldl reserve logging).top = logging.top ∧
      (names.foldl reserve logging).defaultLevel = logging.defaultLevel := by
  induction names generalizing logging with
  | nil => exact ⟨rfl, rfl⟩
  | cons name later ih =>
    have kept : (logging.reserve name).top = logging.top ∧
        (logging.reserve name).defaultLevel = logging.defaultLevel := by
      rw [reserve]
      split <;> exact ⟨rfl, rfl⟩
    exact ⟨(ih _).1.trans kept.1, (ih _).2.trans kept.2⟩

theorem nearest_mem {names : List String} {above : String}
    (found : (logging.nearest names).2 = some above) : above ∈ names := by
  induction names with
  | nil => cases found
  | cons name later ih =>
    rw [nearest] at found
    split at found
    · cases found
      exact List.mem_cons_self
    · exact List.mem_cons_of_mem _ (ih found)

@[simp] theorem top_create (logging : Logging) (name : String) :
    (logging.create name).top = logging.top :=
  (foldl_reserve _ _).1

/-- What creating a logger makes of the known ones. -/
theorem logger?_create (logging : Logging) (name other : String) :
    (logging.create name).logger? other =
      if name = other then some (.bare (logging.nearest (namesAbove name)).2)
      else (logging.logger? other).map fun logger =>
        if adopts name other logger then { logger with above := some name } else logger := by
  rw [create, logger?_foldl_reserve, logger?, Table.get?_insert]
  split
  · rfl
  · rw [Table.get?_mapEntries, logger?]
    cases logging.known.get? other <;> rfl

/-- A logger that is known is only mentioned. -/
theorem mention_of_isSome (known : (logging.logger? name).isSome = true) :
    logging.mention name = logging :=
  if_pos (by rw [known, Bool.or_true])

/-- Whatever is mentioned is known, apart from the top logger. -/
theorem isSome_logger?_mention (apart : isTop name = false) :
    ((logging.mention name).logger? name).isSome = true := by
  rw [mention, apart, Bool.false_or]
  split
  · assumption
  · rw [logger?_create, if_pos rfl]
    rfl

/-- Every way in which a logger is mentioned. -/
theorem mention_cases (logging : Logging) (name : String) :
    logging.mention name = logging ∨
      (isTop name = false ∧ logging.logger? name = none ∧
        logging.mention name = logging.create name) := by
  rw [mention]
  split
  · exact .inl rfl
  · rename_i new
    rw [Bool.or_eq_true, not_or, Bool.not_eq_true, Bool.not_eq_true, Option.isSome_eq_false_iff,
      Option.isNone_iff_eq_none] at new
    exact .inr ⟨new.1, new.2, rfl⟩

@[simp] theorem top_mention (logging : Logging) (name : String) :
    (logging.mention name).top = logging.top := by
  rcases mention_cases logging name with same | ⟨_, _, made⟩
  · rw [same]
  · rw [made, top_create]

@[simp] theorem defaultLevel_mention (logging : Logging) (name : String) :
    (logging.mention name).defaultLevel = logging.defaultLevel := by
  rcases mention_cases logging name with same | ⟨_, _, made⟩
  · rw [same]
  · rw [made]
    exact (foldl_reserve _ _).2

/-- **Mentioning a logger leaves every logger as it is**, apart from its place in the hierarchy. A
logger that is moved comes to stand below a name in front of one of its dots. -/
theorem logger_mention (logging : Logging) (name other : String) :
    ∃ place, (logging.mention name).logger other = { logging.logger other with above := place } ∧
      ∀ above, place = some above →
        (logging.logger other).above = some above ∨ IsAbove above other := by
  rcases mention_cases logging name with same | ⟨_, new, made⟩
  · rw [same]
    exact ⟨_, rfl, fun _ => .inl⟩
  · rw [made]
    cases top : isTop other with
    | true =>
      rw [logger_of_isTop top, logger_of_isTop top, top_create]
      exact ⟨_, rfl, fun _ => .inl⟩
    | false =>
      rw [logger_eq_getD top, logger_eq_getD top, logger?_create]
      split
      · rename_i itself
        subst itself
        rw [new]
        exact ⟨_, rfl, fun _ found => .inr (isAbove_of_mem_namesAbove (nearest_mem found))⟩
      · cases logging.logger? other with
        | none => exact ⟨_, rfl, fun _ => .inl⟩
        | some logger =>
          by_cases adopted : adopts name other logger = true
          · refine ⟨some name, by simp [adopted], fun above found => .inr ?_⟩
            cases found
            rw [adopts, Bool.and_eq_true, List.contains_iff_mem] at adopted
            exact isAbove_of_mem_namesAbove adopted.1
          · exact ⟨logger.above, by simp [adopted], fun _ => .inl⟩

@[simp] theorem level_mention (logging : Logging) (name other : String) :
    ((logging.mention name).logger other).level = (logging.logger other).level := by
  obtain ⟨_, kept, _⟩ := logger_mention logging name other
  rw [kept]

@[simp] theorem handlers_mention (logging : Logging) (name other : String) :
    ((logging.mention name).logger other).handlers = (logging.logger other).handlers := by
  obtain ⟨_, kept, _⟩ := logger_mention logging name other
  rw [kept]

@[simp] theorem verdicts_mention (logging : Logging) (name other : String) :
    ((logging.mention name).logger other).verdicts = (logging.logger other).verdicts := by
  obtain ⟨_, kept, _⟩ := logger_mention logging name other
  rw [kept]

@[simp] theorem given?_mention (logging : Logging) (name other : String) :
    ((logging.mention name).logger other).given? = (logging.logger other).given? := by
  rw [Logger.given?, Logger.isConfigured, handlers_mention, level_mention]
  rfl

/-! ### Replacing and forgetting -/

theorem logger?_replace (apart : isTop name = false) (logger : Logger) (other : String) :
    (logging.replace name logger).logger? other =
      if name = other then some logger else logging.logger? other := by
  rw [replace, apart, if_neg Bool.false_ne_true, logger?, Table.get?_insert]
  split <;> rfl

theorem top_replace (apart : isTop name = false) (logger : Logger) :
    (logging.replace name logger).top = logging.top := by
  rw [replace, apart, if_neg Bool.false_ne_true]

theorem logger_replace (apart : isTop name = false) (logger : Logger) (other : String) :
    (logging.replace name logger).logger other =
      if name = other then logger else logging.logger other := by
  cases top : isTop other with
  | true =>
    rw [if_neg (ne_of_isTop apart top), logger_of_isTop top, logger_of_isTop top, top_replace apart]
  | false =>
    rw [logger_eq_getD top, logger_eq_getD top, logger?_replace apart]
    split <;> rfl

@[simp] theorem defaultLevel_replace (logging : Logging) (name : String) (logger : Logger) :
    (logging.replace name logger).defaultLevel = logging.defaultLevel := by
  rw [replace]
  split <;> rfl

theorem logger_replace_of_isTop (top : isTop name = true) (logger : Logger) (other : String) :
    (logging.replace name logger).logger other =
      if isTop other = true then logger else logging.logger other := by
  rw [replace, if_pos top, Logging.logger]
  split
  · rfl
  · rename_i apart
    rw [Bool.not_eq_true] at apart
    rw [logger_eq_getD apart]
    rfl

theorem logger?_forgetVerdicts (logging : Logging) (name : String) :
    logging.forgetVerdicts.logger? name =
      (logging.logger? name).map fun logger => { logger with verdicts := .empty } := by
  rw [logger?, forgetVerdicts, Table.get?_mapValues, logger?]
  rcases logging.known.get? name with - | - | logger <;> rfl

theorem logger_forgetVerdicts (logging : Logging) (name : String) :
    logging.forgetVerdicts.logger name = { logging.logger name with verdicts := .empty } := by
  cases top : isTop name with
  | true =>
    rw [logger_of_isTop top, logger_of_isTop top]
    rfl
  | false =>
    rw [logger_eq_getD top, logger_eq_getD top, logger?_forgetVerdicts]
    cases logging.logger? name <;> rfl

@[simp] theorem defaultLevel_forgetVerdicts (logging : Logging) :
    logging.forgetVerdicts.defaultLevel = logging.defaultLevel := rfl

/-! ### What the operations make of a logger -/

/-- A logger that is set up has its level, and the others are as they were mentioned. All verdicts
are forgotten. -/
theorem logger_setUpAt (apart : isTop name = false) (level : Level) (other : String) :
    (logging.setUpAt name level).logger other =
      { (if name = other then ((logging.mention name).logger other).configured level
          else (logging.mention name).logger other) with
        verdicts := .empty } := by
  rw [setUpAt, logger_forgetVerdicts, logger_replace apart]
  split
  · rename_i same
    rw [same]
  · rfl

/-- Logging through a logger changes nothing but verdicts. -/
theorem logger_remember (logging : Logging) (notice : Notice) (other : String) :
    ∃ verdicts, (logging.remember notice).logger other =
      { logging.logger other with verdicts := verdicts } := by
  cases top : isTop notice.logger with
  | true =>
    rw [remember, logger_replace_of_isTop top]
    split
    · rename_i top'
      rw [logger_of_isTop top, logger_of_isTop top']
      exact ⟨_, rfl⟩
    · exact ⟨_, rfl⟩
  | false =>
    rw [remember, logger_replace top]
    split
    · rename_i same
      rw [same]
      exact ⟨_, rfl⟩
    · exact ⟨_, rfl⟩

theorem top_remember (logging : Logging) (notice : Notice) :
    ∃ verdicts, (logging.remember notice).top = { logging.top with verdicts := verdicts } :=
  logger_remember logging notice topName

/-- A logger that is logged through learns a verdict, and no other one does. -/
theorem verdicts_remember (notice : Notice) (apart : isTop other = false) :
    ((logging.remember notice).logger other).verdicts =
      if notice.logger = other then
        (logging.logger other).verdicts.insert notice.level.rank (logging.passes notice)
      else (logging.logger other).verdicts := by
  cases top : isTop notice.logger with
  | true =>
    rw [if_neg (ne_of_isTop apart top).symm, remember, logger_replace_of_isTop top, apart,
      if_neg Bool.false_ne_true]
  | false =>
    rw [remember, logger_replace top]
    split
    · rename_i same
      rw [same]
    · rfl

theorem logger?_remember (notice : Notice) (top : isTop other = true) :
    (logging.remember notice).logger? other = logging.logger? other := by
  cases apart : isTop notice.logger with
  | true =>
    rw [remember, replace, if_pos apart]
    rfl
  | false => rw [remember, logger?_replace apart, if_neg (ne_of_isTop apart top)]

/-! ### The loggers that have been set up -/

theorem given?_setUpAt (apart : isTop name = false) (level : Level) (other : String) :
    ((logging.setUpAt name level).logger other).given? =
      if name = other then some level else (logging.logger other).given? := by
  rw [logger_setUpAt apart]
  split
  · rfl
  · exact given?_mention logging name other

@[simp] theorem given?_remember (logging : Logging) (notice : Notice) (other : String) :
    ((logging.remember notice).logger other).given? = (logging.logger other).given? := by
  obtain ⟨_, kept⟩ := logger_remember logging notice other
  rw [kept]
  rfl

/-- A logger that has been set up is known. -/
theorem isSome_logger?_of_given? (apart : isTop name = false)
    (configured : (logging.logger name).given?.isSome = true) :
    (logging.logger? name).isSome = true := by
  rw [logger_eq_getD apart] at configured
  cases known : logging.logger? name with
  | none => rw [known] at configured; cases configured
  | some logger => rfl

theorem mem_keys_of_given? (apart : isTop name = false)
    (configured : (logging.logger name).given?.isSome = true) : name ∈ logging.known.keys := by
  have known := isSome_logger?_of_given? apart configured
  refine Decidable.byContradiction fun absent => ?_
  rw [logger?, Table.get?_eq_none_iff.2 absent] at known
  cases known

end Logging

end CommandRouter
