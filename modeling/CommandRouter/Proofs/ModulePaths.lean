import CommandRouter.Config
import CommandRouter.Proofs.Modules
import CommandRouter.Proofs.Separated

/-!
# The module paths in the environment

The environment gives the command modules as one text, with commas between the paths. The text is
cut at the commas, the pieces are trimmed, and those of which nothing is left are passed over. The
loader does the same trimming and passing over once more, for the sake of programs that give their
paths one by one. So a path is trimmed twice, and the two passes must not disagree about what a
blank is: they are one function, which changes nothing the second time.

## What can be listed

A path that comes out of a text is not empty, holds no comma, and has no blank at its ends. Nothing
else is asked of it: it may hold blanks inside, it may be no name of a module, and it may come
twice. Conversely such paths are read from the text in which they stand between commas, and neither
blanks around them nor blank items among them make a difference. The text itself is not restored,
since that is what it means that they make no difference.

## Main definitions

* `IsModulePath` says that a path can stand in a list.
* `Shows` says that the items of a text show paths, with blanks around them and blank items.

## Main results

* `splitModules_of_shows` reads the paths that are shown.
* `usablePath?_of_isModulePath` and `Roster.loadEach_of_isModulePath` are the second pass.
* `faithful_splitModules` puts them together.
-/

namespace CommandRouter

/-- Whether a module path can stand in a list of paths. -/
structure IsModulePath (path : String) : Prop where
  /-- There is something to look for. -/
  nonempty : path ≠ ""
  /-- It is not cut. -/
  whole : ',' ∉ path.toList
  /-- No blank stands at its ends. -/
  trimmed : IsTrimmed path

/-- Whether items show paths: each path stands in an item of its own, in order, with any blanks
around it, and among these items there may be blank ones. -/
inductive Shows : List String → List String → Prop
  /-- No item shows no path. -/
  | nil : Shows [] []
  /-- A blank item shows nothing. -/
  | blank {item : String} {items paths : List String}
      (blank : ∀ c ∈ item.toList, isBlank c = true) (others : Shows items paths) :
      Shows (item :: items) paths
  /-- A path may have blanks around it. -/
  | path {before path after : String} {items paths : List String}
      (ahead : ∀ c ∈ before.toList, isBlank c = true)
      (behind : ∀ c ∈ after.toList, isBlank c = true) (others : Shows items paths) :
      Shows ((before ++ path ++ after) :: items) (path :: paths)

/-! ### The first pass -/

/-- The items of the text are made into paths as the loader makes paths of texts. -/
theorem splitModules_eq (text : String) :
    splitModules text = Roster.usablePaths (splitAt ',' text) := rfl

theorem isModulePath_of_mem_splitModules {text path : String} (h : path ∈ splitModules text) :
    IsModulePath path := by
  obtain ⟨listed, nonempty⟩ := List.mem_filter.1 h
  obtain ⟨item, cut, rfl⟩ := List.mem_map.1 listed
  refine ⟨by simpa using nonempty, ?_, isTrimmed_trim item⟩
  exact fun comma => not_mem_of_mem_splitAt cut (mem_of_mem_trim comma)

namespace Shows

variable {items paths : List String}

/-- Paths show themselves. -/
theorem refl (paths : List String) : Shows paths paths := by
  induction paths with
  | nil => exact .nil
  | cons path later ih =>
    have bare : "" ++ path ++ "" = path := by rw [String.empty_append, String.append_empty]
    have shown : Shows (("" ++ path ++ "") :: later) (path :: later) :=
      .path (by simp) (by simp) ih
    rwa [bare] at shown

/-- A blank is no comma, so no item is cut. -/
theorem whole (shows : Shows items paths) (clean : ∀ path ∈ paths, IsModulePath path) :
    ∀ item ∈ items, ',' ∉ item.toList := by
  have blankless {s : String} (blank : ∀ c ∈ s.toList, isBlank c = true) : ',' ∉ s.toList :=
    fun comma => absurd (blank ',' comma) (by decide)
  induction shows with
  | nil => exact List.forall_mem_nil _
  | blank blank _ ih => exact List.forall_mem_cons.2 ⟨blankless blank, ih clean⟩
  | path ahead behind _ ih =>
    obtain ⟨first, others⟩ := List.forall_mem_cons.1 clean
    refine List.forall_mem_cons.2 ⟨?_, ih others⟩
    simp only [String.toList_append, List.mem_append, not_or]
    exact ⟨⟨blankless ahead, first.whole⟩, blankless behind⟩

/-- **The paths that are shown are the usable ones.** -/
theorem usablePaths_eq (shows : Shows items paths) (clean : ∀ path ∈ paths, IsModulePath path) :
    Roster.usablePaths items = paths := by
  induction shows with
  | nil => rfl
  | blank blank _ ih =>
    rw [Roster.usablePaths, List.map_cons, trim_eq_empty blank]
    exact ih clean
  | @path before path after items paths ahead behind _ ih =>
    obtain ⟨first, others⟩ := List.forall_mem_cons.1 clean
    have kept : (!path.isEmpty) = true := by simpa using first.nonempty
    rw [Roster.usablePaths, List.map_cons, trim_padded first.trimmed first.nonempty ahead behind,
      List.filter_cons_of_pos (p := fun path : String => !path.isEmpty) kept]
    exact congrArg (path :: ·) (ih others)

end Shows

/-- **A text is read as the paths that its items show.** -/
theorem splitModules_of_shows {items paths : List String} (shows : Shows items paths)
    (clean : ∀ path ∈ paths, IsModulePath path) :
    splitModules (",".intercalate items) = paths := by
  by_cases empty : items = []
  · -- No items are written as the empty text, which is cut into one item that is empty.
    subst empty
    cases shows
    rfl
  · have cut := splitAt_intercalate empty (shows.whole clean)
    rw [splitModules_eq, ← shows.usablePaths_eq clean]
    exact congrArg Roster.usablePaths cut

/-! ### The second pass -/

theorem usablePath?_of_isModulePath {path : String} (clean : IsModulePath path) :
    Roster.usablePath? (.text path) = .ok (some path) := by
  have kept : ¬path.isEmpty := by simpa using clean.nonempty
  rw [Roster.usablePath?, Value.textFor_text, Except.map,
    trim_eq_self clean.trimmed clean.nonempty, if_neg kept]

/-- None of them is changed, and none is passed over. -/
theorem mapM_usablePath?_of_isModulePath {paths : List String}
    (clean : ∀ path ∈ paths, IsModulePath path) :
    (paths.map .text).mapM Roster.usablePath? = .ok (paths.map some) := by
  induction paths with
  | nil => rfl
  | cons path later ih =>
    obtain ⟨first, others⟩ := List.forall_mem_cons.1 clean
    rw [List.map_cons, List.mapM_cons, usablePath?_of_isModulePath first, ih others]
    rfl

/-- **The loader leaves clean paths as they are**: it loads the modules of just these paths, one
after another, and says that it has loaded them. -/
theorem Roster.loadEach_of_isModulePath (library : Library) {paths : List String}
    (clean : ∀ path ∈ paths, IsModulePath path) :
    loadEach library (paths.map .text) = loadPaths library paths >>= fun _ => pure paths := by
  rw [loadEach_texts, (Shows.refl paths).usablePaths_eq clean]

/-- The paths that the environment gives are those of its text. -/
theorem Config.modules_of_ofEnvironment {environment : Table String String} {config : Config}
    (read : ofEnvironment environment = .ok config) :
    config.modules =
      .list ((splitModules (setting environment "COMMAND_MODULES" "")).map .text) := by
  obtain ⟨tcpPort, -, read⟩ := bind_eq_ok_iff.1 read
  obtain ⟨lifetime, -, read⟩ := bind_eq_ok_iff.1 read
  cases read
  rfl

/-! ### The whole of it -/

/-- **The module list in the environment is read faithfully.** What is read from a text are paths
that can stand in a list. They are read again from every text whose items show them, whatever blanks
and blank items there are. The configuration holds just these paths, and the loader, which trims
them again and passes over blank ones, finds every one of them as it is and loads their modules in
order. Conversely every list of such paths is read from the text in which they stand between commas,
in order and with its repetitions. -/
theorem faithful_splitModules (text : String) :
    (∀ path ∈ splitModules text, IsModulePath path) ∧
      (∀ items, Shows items (splitModules text) →
        splitModules (",".intercalate items) = splitModules text) ∧
      (∀ environment config, environment.get? "COMMAND_MODULES" = some text →
        Config.ofEnvironment environment = .ok config →
        config.modules = .list ((splitModules text).map .text)) ∧
      ((splitModules text).map .text).mapM Roster.usablePath? = .ok ((splitModules text).map some) ∧
      (∀ library, Roster.loadEach library ((splitModules text).map .text) =
        Roster.loadPaths library (splitModules text) >>= fun _ => pure (splitModules text)) ∧
      ∀ paths, (∀ path ∈ paths, IsModulePath path) →
        splitModules (",".intercalate paths) = paths := by
  have clean : ∀ path ∈ splitModules text, IsModulePath path :=
    fun path member => isModulePath_of_mem_splitModules member
  refine ⟨clean, fun items shows => splitModules_of_shows shows clean, ?_,
    mapM_usablePath?_of_isModulePath clean,
    fun library => Roster.loadEach_of_isModulePath library clean,
    fun paths given => splitModules_of_shows (.refl paths) given⟩
  intro environment config given read
  rw [Config.modules_of_ofEnvironment read, Config.setting, given, Option.getD_some]

/-- Blanks of several kinds, an item that is blank, one that is empty, and a path that comes
twice. -/
theorem faithful_splitModules_spaced :
    let text := " plugins.fun,,plugins.music\t,plugins.fun"
    let paths := ["plugins.fun", "plugins.music", "plugins.fun"]
    let items := ["\u3000", "" ++ "plugins.fun" ++ " ", "", "\n " ++ "plugins.music" ++ "",
      "" ++ "plugins.fun" ++ "\u0085"]
    let environment : Table String String := .ofList [("COMMAND_MODULES", text)]
    splitModules text = paths ∧ (∀ path ∈ paths, IsModulePath path) ∧
      splitModules (",".intercalate paths) = paths ∧
      Shows items paths ∧ splitModules (",".intercalate items) = paths ∧
      ∃ config, Config.ofEnvironment environment = .ok config ∧
        config.modules = .list (paths.map .text) := by
  intro text paths items environment
  have read : splitModules text = paths := by decide +kernel
  have blank {s : String} (all : s.toList.all isBlank = true) : ∀ c ∈ s.toList, isBlank c = true :=
    List.all_eq_true.1 all
  have shows : Shows items paths :=
    .blank (blank (by decide)) (.path (blank (by decide)) (blank (by decide))
      (.blank (blank (by decide)) (.path (blank (by decide)) (blank (by decide))
        (.path (blank (by decide)) (blank (by decide)) .nil))))
  obtain ⟨clean, again, configured, -, -, converse⟩ := faithful_splitModules text
  rw [read] at clean again configured
  obtain ⟨config, accepted⟩ : ∃ config, Config.ofEnvironment environment = .ok config := by
    have accepted : (Config.ofEnvironment environment).isOk := by decide +kernel
    cases result : Config.ofEnvironment environment with
    | ok config => exact ⟨config, rfl⟩
    | error fault =>
      rw [result] at accepted
      cases accepted
  exact ⟨read, clean, converse paths clean, shows, again items shows, config, accepted,
    configured environment config rfl accepted⟩

end CommandRouter
