import CommandRouter.Bot.Run
import CommandRouter.Proofs.Modules
import CommandRouter.Store.Memory

/-!
# Paths that lead to no setup

A path may lead to nothing: there is no module of its name, or the module has no setup. Then nothing
is registered, and loading ends with a fault before anything was done. Which fault it is decides
what the program says in the end. A fault of the configuration is reported as such; any other one is
reported as a failure of the program.

## The distinction that decides it

A path is either looked for or turned away. If it is looked for and there is nothing, that is an
error of the configuration, however the path is formed and whichever of its ancestors there are. But
three sorts of paths are turned away before anything is looked for: the empty one, a relative one,
and one with more names in front of it than can be imported one inside the other. The faults of
these are not turned into errors of the configuration.

A module that exists may break while it is imported, and then its own fault is the one that counts.
So nothing must break on the way: of the ancestors of the path, none that is got as far as.

The empty path is never met by the program, which skips blank paths. The other two sorts are.

## Main definitions

* `Library.Sound` says that no module breaks on the way to a path, `Library.Lacks` that the path
  leads to nothing, and `Library.Seeks` that it is looked for.
* `Bot.ComesTo` says that the program, with some settings, comes to a path, and `Bot.EndsWith` that
  a run ends with what the program says of a fault.

## Main results

* `Library.Sound.exists_reason` is by induction on the names in front of a module, and
  `Library.importFrom_of_absent` is the import of a module that does not exist.
* `Library.setupOf_of_lacks` is the fault of a path that leads to nothing.
* `Bot.endsWith_runProgram` is what the program reports of a bot that could not be created.
* `Roster.loadModule_of_lacks` puts them together.
-/

namespace CommandRouter

namespace Library

variable {library : Library} {path : String}

/-- Whether the import of the first of some names, each inside the next, gets as far as its own
module. There is nothing around it, or a package around it can be imported. -/
inductive Enters (library : Library) : List String → Prop
  /-- There is nothing around the name. -/
  | top (name : String) : Enters library [name]
  /-- There is a package around the name. -/
  | inside {name parent : String} {later : List String} {setup : Option Setup}
      (imported : library.importFrom (parent :: later) = .ok setup)
      (package : library.isPackage parent = true) : Enters library (name :: parent :: later)

/-- Whether nothing breaks when some names are imported, each inside the next: none of them, up to
the first that has been imported already, is that of a module whose import is a fault and is got as
far as. -/
def Sound (library : Library) (names : List String) : Prop :=
  ∀ nearer name later module fault, names = nearer ++ name :: later →
    (∀ other ∈ nearer, library.provides other = false) → library.Enters (name :: later) →
      library.get? name = some module → module.contents ≠ .error fault

/-- Whether a path leads to nothing that could be set up, while nothing breaks on the way. -/
inductive Lacks (library : Library) (path : String) : Prop
  /-- There is no module of that name, and the import of no ancestor breaks. -/
  | absent (missing : library.get? path = none) (sound : library.Sound (ancestors path))
  /-- There is a module, and it has no setup. -/
  | setupless (found : library.importFrom (path :: ancestors path) = .ok none)

/-- Whether the module of a path is looked for. -/
structure Seeks (library : Library) (path : String) : Prop where
  /-- The path is not empty. -/
  filled : path ≠ ""
  /-- The path is not relative. -/
  absolute : path.toList.head? ≠ some '.'
  /-- The nearest module that has been imported is near enough. -/
  near : ((path :: ancestors path).takeWhile fun name => !library.provides name).length ≤
    library.depth

/-! ### The import of a path -/

theorem provides_eq_false_of_missing {name : String} (missing : library.get? name = none) :
    library.provides name = false := by
  rw [provides, missing]
  rfl

theorem contents_of_missing {name : String} (missing : library.get? name = none) :
    library.contents name = .error (.raised .importing ("No module named " ++ quoted name)) := by
  rw [contents, missing]

theorem importFrom_of_provides {name : String} (known : library.provides name = true)
    (parents : List String) : library.importFrom (name :: parents) = library.contents name := by
  unfold importFrom
  exact if_pos known

/-- Around a name without ancestors there is nothing. -/
theorem importFrom_singleton (name : String) :
    library.importFrom [name] = library.contents name := by
  unfold importFrom
  exact ite_self _

/-- What has been imported is found by its name. -/
theorem importFrom_of_loaded {name : String} {setup : Option Setup} {isPackage : Bool}
    (found : library.get? name = some (.loaded setup isPackage)) (parents : List String) :
    library.importFrom (name :: parents) = .ok setup := by
  have provided : library.provides name = true := by
    rw [provides, found]
    rfl
  rw [importFrom_of_provides provided, contents, found]
  rfl

/-- What has not been imported is looked for inside its parent. -/
theorem importFrom_cons_cons {name : String} (hidden : library.provides name = false)
    (parent : String) (later : List String) :
    library.importFrom (name :: parent :: later) = (do
      let _ ← library.importFrom (parent :: later)
      if library.isPackage parent then library.contents name
      else
        throw (.raised .importing ("No module named " ++ quoted name ++ "; " ++ quoted parent ++
          " is not a package"))) := by
  rw [importFrom, if_neg (by simp [hidden])]

/-- Nothing breaks around a name that has not been imported if nothing breaks with it. -/
theorem Sound.tail {name : String} {parents : List String}
    (sound : library.Sound (name :: parents)) (hidden : library.provides name = false) :
    library.Sound parents := by
  intro nearer other later module fault split unknown
  refine sound (name :: nearer) other later module fault (by rw [split, List.cons_append]) ?_
  exact List.forall_mem_cons.2 ⟨hidden, unknown⟩

/-- **Where nothing breaks, an import fails only because there is nothing to import**, by induction
on the names around the one that is imported. -/
theorem Sound.exists_reason {names : List String} (sound : library.Sound names) {fault : Fault}
    (filled : names ≠ []) (failed : library.importFrom names = .error fault) :
    ∃ reason, fault = .raised .importing reason := by
  induction names generalizing fault with
  | nil => exact absurd rfl filled
  | cons name parents ih =>
    -- A module that is got as far as does not fail, so it is missing if its contents are.
    have absent (entered : library.Enters (name :: parents))
        (empty : library.contents name = .error fault) :
        ∃ reason, fault = .raised .importing reason := by
      rw [contents] at empty
      split at empty
      · rename_i module found
        exact absurd empty (sound [] name parents module fault rfl (by simp) entered found)
      · cases empty
        exact ⟨_, rfl⟩
    cases known : library.provides name with
    | true =>
      rw [importFrom_of_provides known, contents] at failed
      rw [provides, Option.any_eq_true] at known
      obtain ⟨module, found, loaded⟩ := known
      rw [found] at failed
      cases module with
      | loaded setup isPackage => cases failed
      | unloaded contents isPackage => cases loaded
    | false =>
      cases parents with
      | nil =>
        rw [importFrom_singleton] at failed
        exact absent (.top name) failed
      | cons parent later =>
        rw [importFrom_cons_cons known] at failed
        cases around : library.importFrom (parent :: later) with
        | error other =>
          rw [around] at failed
          cases failed
          exact ih (sound.tail known) (by simp) around
        | ok setup =>
          rw [around, ok_bind] at failed
          split at failed
          · rename_i package
            exact absent (.inside around package) failed
          · cases failed
            exact ⟨_, rfl⟩

/-- **What does not exist is not found**, whichever of the names around it exist. -/
theorem importFrom_of_absent {name : String} {parents : List String}
    (missing : library.get? name = none) (sound : library.Sound parents) :
    ∃ reason, library.importFrom (name :: parents) = .error (.raised .importing reason) := by
  have hidden := provides_eq_false_of_missing missing
  cases parents with
  | nil => exact ⟨_, (importFrom_singleton name).trans (contents_of_missing missing)⟩
  | cons parent later =>
    rw [importFrom_cons_cons hidden]
    cases around : library.importFrom (parent :: later) with
    | error fault =>
      obtain ⟨reason, rfl⟩ := sound.exists_reason (by simp) around
      exact ⟨reason, rfl⟩
    | ok setup =>
      rw [ok_bind]
      split
      · exact ⟨_, contents_of_missing missing⟩
      · exact ⟨_, rfl⟩

theorem importModule_of_seeks (seeks : library.Seeks path) :
    library.importModule path = library.importFrom (path :: ancestors path) := by
  have filled : path.isEmpty = false := by simpa using seeks.filled
  have near := Nat.not_lt.2 seeks.near
  simp only [importModule, filled, if_neg seeks.absolute, if_neg near, Bool.false_eq_true, if_false]

/-- A path that is not looked for is turned away, with a fault that is no failed import. -/
theorem importModule_of_not_seeks (away : ¬library.Seeks path) :
    ∃ fault, library.importModule path = .error fault ∧ fault.kind ≠ .importing ∧
      fault.isConfiguration = false ∧ fault.isOrdinary = true := by
  rw [importModule]
  split
  · exact ⟨_, rfl, by simp [Fault.kind], rfl, rfl⟩
  · rename_i filled
    split
    · exact ⟨_, rfl, by simp [Fault.kind], rfl, rfl⟩
    · rename_i absolute
      split
      · exact ⟨_, rfl, by simp [Fault.kind], rfl, rfl⟩
      · rename_i near
        exact absurd ⟨by simpa using filled, absolute, Nat.not_lt.1 near⟩ away

/-- **A path that leads to nothing is an error of the configuration exactly if it is looked
for.** -/
theorem setupOf_of_lacks (lacks : library.Lacks path) :
    ∃ fault, library.setupOf path = .error fault ∧ fault.isOrdinary = true ∧
      (fault.isConfiguration = true ↔ library.Seeks path) := by
  by_cases seeks : library.Seeks path
  · have sought := importModule_of_seeks seeks
    cases lacks with
    | absent missing sound =>
      obtain ⟨reason, failed⟩ := importFrom_of_absent missing sound
      refine ⟨.importFailed path reason, ?_, rfl, iff_of_true rfl seeks⟩
      rw [setupOf, sought, failed]
      rfl
    | setupless found =>
      refine ⟨.noSetup path, ?_, rfl, iff_of_true rfl seeks⟩
      rw [setupOf, sought, found]
  · obtain ⟨fault, failed, kind, other, ordinary⟩ := importModule_of_not_seeks seeks
    refine ⟨fault, ?_, ordinary, iff_of_false (by simp [other]) seeks⟩
    rw [setupOf, failed]
    exact congrArg Except.error (if_neg kind)

end Library

/-! ### Categories -/

/-- Categories that are made of texts can be added, and the table of commands stays. -/
theorem Roster.run_addCategories {categories : List Category}
    (texts : ∀ category ∈ categories, ∃ name leading, category = .ofTexts name leading)
    (roster : Roster) :
    ∃ events, addCategories categories roster =
        ⟨events, (addCategories categories roster).state, .ok ()⟩ ∧
      (addCategories categories roster).state.registry.table = roster.registry.table := by
  induction categories generalizing roster with
  | nil => exact ⟨[], rfl, rfl⟩
  | cons category later ih =>
    obtain ⟨⟨name, leading, rfl⟩, others⟩ := List.forall_mem_cons.1 texts
    have first := run_addCategory (.ofTexts name leading) roster
    obtain ⟨events, rest, same⟩ := ih others
      { roster with registry := { roster.registry with
        categories :=
          ⟨roster.registry.categories.table.insert (lower name) (.ofTexts name leading)⟩ } }
    rw [addCategories, Action.run_bind_of_eq_ok first, rest]
    exact ⟨_, rfl, same⟩

/-! ### What the program reports -/

namespace Bot

variable {library : Library} {config : Config} {path : String} {fault : Fault}

/-- The roster with which the program begins to load modules. -/
def home : Roster := (Roster.addCategories Category.defaults (.create .empty)).state

theorem run_addCategories_defaults :
    ∃ events, Roster.addCategories Category.defaults (.create .empty) = ⟨events, home, .ok ()⟩ ∧
      home.registry.Consistent := by
  have texts : ∀ category ∈ Category.defaults, ∃ name leading,
      category = .ofTexts name leading := by
    intro category listed
    simp only [Category.defaults, List.mem_cons, List.not_mem_nil, or_false] at listed
    rcases listed with rfl | rfl | rfl | rfl | rfl | rfl | rfl | rfl <;> exact ⟨_, _, rfl⟩
  obtain ⟨events, added, same⟩ := Roster.run_addCategories texts (.create .empty)
  change home.registry.table = .empty at same
  refine ⟨events, added, ?_, ?_⟩
  · rw [Registry.entries, same]
    exact List.Pairwise.nil
  · rw [same]
    exact List.forall_mem_nil _

/-- Whether the program, with some settings, comes to a path: the settings can be used, and all
modules that they name before the path can be loaded. -/
structure ComesTo (library : Library) (config : Config) (path : String) : Prop where
  /-- The settings pass their check. -/
  valid : config.validate = .ok ()
  /-- The path is named, and what is named before it can be loaded. -/
  reached : ∃ given earlier later growths next, config.modules = .list (given.map .text) ∧
    Roster.usablePaths given = earlier ++ path :: later ∧
      Roster.Loads library home earlier growths next

/-- The loading stops at the first path that cannot be loaded. -/
theorem run_create_of_comesTo (room : Room) (comes : ComesTo library config path)
    (failed : ∀ roster, Roster.loadModule library path roster = ⟨[], roster, .error fault⟩) :
    (create room library config Category.defaults config.modules (.create .empty)).result =
      .error fault := by
  obtain ⟨given, earlier, later, growths, next, listed, clean, loads⟩ := comes.reached
  obtain ⟨events, added, consistent⟩ := run_addCategories_defaults
  obtain ⟨kept, -⟩ := loads.entries_eq consistent
  rcases Roster.setsUp_or_fails library path next with ⟨entries, last, setsUp⟩ |
    ⟨entries, other, left, fails⟩
  · have loaded := (Roster.run_loadModule_of_setsUp setsUp kept).symm.trans (failed next)
    cases congrArg Outcome.result loaded
  · have same := (Roster.run_loadModule_of_fails fails).symm.trans (failed next)
    cases congrArg Outcome.result same
    have stopped := Roster.run_loadModules_of_fails clean loads consistent fails
    obtain ⟨done, commands⟩ : ∃ done, loadCommands library Category.defaults config.modules
        (.create .empty) = ⟨done, left, .error fault⟩ := by
      rw [loadCommands, Action.run_bind_of_eq_ok added, listed,
        Action.run_bind_of_eq_error stopped]
      exact ⟨_, rfl⟩
    rw [create, Action.run_bind_of_eq_error commands]

/-- Whether a run of the program ends with what it says of a fault: the exit code, and the last
message. -/
def EndsWith (logging : Logging) (fault : Fault) (ended : RunSummary × Option Nat) : Prop :=
  ∃ notice code before, verdict fault = .ok (notice, code) ∧ ended.2 = some code ∧
    ended.1.trailing = Report.append before (.ofEvents logging [.logged notice])

/-- The program has something to say of every ordinary fault. -/
theorem exists_verdict_eq_ok (ordinary : fault.isOrdinary = true) :
    ∃ last, verdict fault = .ok last := by
  obtain ⟨caught, message, said⟩ := Fault.isOrdinary_iff.1 ordinary
  rw [verdict, if_neg (by simp [caught]), said]
  exact ⟨_, rfl⟩

/-- **A run whose bot could not be created ends with the fault of its creation.** -/
theorem endsWith_runProgram (logging : Logging) (room : Room) (backend : Backend)
    (occasions : List Occasion) (valid : config.validate = .ok ())
    (ordinary : fault.isOrdinary = true)
    (failed :
      (create room library config Category.defaults config.modules (.create .empty)).result =
        .error fault) :
    EndsWith logging fault (runProgram logging room library backend config occasions) := by
  have refused : ∃ before, run logging room library backend config occasions
      (.ofEvents logging [.logged (.info "Main" "Starting Orion...")]) = refused before fault := by
    rw [run, valid]
    dsimp only
    rw [failed]
    exact ⟨_, rfl⟩
  obtain ⟨before, same⟩ := refused
  obtain ⟨⟨notice, code⟩, last⟩ := exists_verdict_eq_ok ordinary
  rw [runProgram, same]
  simp only [refused, last]
  exact ⟨notice, code, before, last, rfl, rfl⟩

/-- Only a fault of the configuration is reported as one. -/
theorem verdict_eq_iff {message : String} (caught : fault.isInterrupt = false)
    (said : fault.message = .ok message) :
    verdict fault = .ok (.error "Main" ("Invalid command configuration: " ++ message), 1) ↔
      fault.isConfiguration = true := by
  have differ : "Fatal error: " ++ message ≠ "Invalid command configuration: " ++ message := by
    intro same
    have heads := congrArg (fun text => text.toList.head?) same
    simp at heads
  rw [verdict, if_neg (by simp [caught]), said]
  cases fault.isConfiguration <;> simp [Notice.error, differ, Except.map]

end Bot

namespace Roster

variable {library : Library} {path : String}

/-- **A path that leads to nothing is reported as an error of the configuration exactly if it is
looked for**, by the loader and by the program. In any case loading it does nothing. -/
theorem loadModule_of_lacks (lacks : library.Lacks path) :
    ∃ fault message, fault.message = .ok message ∧
      (fault.isConfiguration = true ↔ library.Seeks path) ∧
      (∀ roster, loadModule library path roster = ⟨[], roster, .error fault⟩) ∧
      (Bot.verdict fault =
          .ok (.error "Main" ("Invalid command configuration: " ++ message), 1) ↔
        library.Seeks path) ∧
      ∀ logging room backend config occasions, Bot.ComesTo library config path →
        Bot.EndsWith logging fault
          (Bot.runProgram logging room library backend config occasions) := by
  obtain ⟨fault, missing, ordinary, configured⟩ := Library.setupOf_of_lacks lacks
  have failed (roster : Roster) :
      loadModule library path roster = ⟨[], roster, .error fault⟩ :=
    run_loadModule_of_setupOf_error missing roster
  obtain ⟨caught, message, said⟩ := Fault.isOrdinary_iff.1 ordinary
  refine ⟨fault, message, said, configured, failed, ?_,
    fun logging room backend config occasions comes => ?_⟩
  · rw [Bot.verdict_eq_iff caught said, configured]
  · exact Bot.endsWith_runProgram logging room backend occasions comes.valid ordinary
      (Bot.run_create_of_comesTo room comes failed)

/-- A library with a package, which registers nothing. -/
def games : Library := .ofList 9 [("games", .loaded (some ⟨[], none⟩) true)]

/-- Settings that name the module, and something inside it. -/
def gamesConfig : Config where
  token := .text "token"
  modules := .list [.text " games ", .text "games.dice"]

/-- There is nothing of that name inside the package. -/
theorem loadModule_of_lacks_inside :
    games.Lacks "games.dice" ∧ games.Seeks "games.dice" ∧
      Bot.ComesTo games gamesConfig "games.dice" ∧
      ∃ fault : Fault, fault.isConfiguration = true ∧
        (∀ roster, loadModule games "games.dice" roster = ⟨[], roster, .error fault⟩) ∧
        Bot.EndsWith (.application false) fault
          (Bot.runProgram (.application false) .flat games { engine := .inMemory }
            gamesConfig []) := by
  have above : ancestors "games.dice" = ["games"] := by decide +kernel
  have known : games.get? "games" = some (.loaded (some ⟨[], none⟩) true) := rfl
  have unknown : games.get? "games.dice" = none := rfl
  have lacks : games.Lacks "games.dice" := by
    refine .absent unknown ?_
    intro nearer name later module fault split _ _ found
    rw [above, eq_comm, List.append_eq_singleton_iff] at split
    obtain ⟨-, only⟩ | ⟨-, none⟩ := split
    · rw [(List.cons.inj only).1, known] at found
      cases found
      simp [CommandModule.contents]
    · cases none
  have here : games.provides "games" = true := rfl
  have away : games.provides "games.dice" = false := rfl
  have seeks : games.Seeks "games.dice" := by
    refine ⟨by decide, by decide +kernel, ?_⟩
    show _ ≤ 9
    simp [above, here, away]
  have comes : Bot.ComesTo games gamesConfig "games.dice" := by
    have imported : games.importModule "games" = .ok (some ⟨[], none⟩) := by
      have alone : ancestors "games" = [] := by decide +kernel
      rw [Library.importModule_of_seeks, Library.importFrom_of_loaded known]
      exact ⟨by decide, by decide +kernel, by simp [alone, here]⟩
    exact ⟨rfl, [" games ", "games.dice"], ["games"], [], [[]], Bot.home, rfl, by decide +kernel,
      .cons ⟨⟨[], none⟩, imported, .nil _, rfl⟩ (.nil _)⟩
  obtain ⟨fault, -, -, configured, failed, -, ends⟩ := loadModule_of_lacks lacks
  exact ⟨lacks, seeks, comes, fault, configured.2 seeks, failed, ends _ _ _ _ _ comes⟩

/-- **A relative path is reported as a failure of the program.** -/
theorem not_isConfiguration_relative :
    Library.Lacks (.empty 9) ".games" ∧
      loadModule (.empty 9) ".games" (create .empty) =
        ⟨[], create .empty, .error (.relativeModulePath ".games")⟩ ∧
      (Fault.relativeModulePath ".games").isConfiguration = false ∧
      Bot.verdict (.relativeModulePath ".games") =
        .ok (.error "Main" ("Fatal error: the 'package' argument is required to perform a " ++
          "relative import for '.games'"), 1) := by
  have above : ancestors ".games" = [] := by decide +kernel
  have turnedAway : Library.setupOf (.empty 9) ".games" = .error (.relativeModulePath ".games") :=
    rfl
  refine ⟨.absent rfl ?_, run_loadModule_of_setupOf_error turnedAway _, rfl, rfl⟩
  rw [above]
  intro nearer name later module fault split
  simp at split

end Roster

end CommandRouter
