import CommandRouter.Modules
import CommandRouter.Proofs.Actions
import CommandRouter.Proofs.Registry.History
import Mathlib.Algebra.GroupWithZero.Nat

/-!
# What loading modules comes to

Modules are loaded in order, each on the command table that the ones before it have left. What a
registration adds stands at the end of the table, and nothing is ever overwritten; so the table
grows by just what was registered, and the counts that are logged are right.

The first failure stops the loading, wherever it is: a module cannot be imported, it has no setup, a
registration is refused half-way through a setup, or the setup fails after all registrations. There
is no way back: what was registered until then stays in the table, also what the failing module has
registered itself. Modules after it make no difference, because they are not looked at.

## Main definitions

* `Roster.Enters` says that a registration succeeds, and `Roster.Refuses` how it may fail.
* `Roster.Entered`, `Roster.SetsUp` and `Roster.Loads` are chains of registrations, the setup of a
  module, and chains of modules, each with the entries that come from it.
* `Roster.Fails` says how the loading of a module may fail, and after which entries.
* `Roster.loadPaths` loads modules whose paths are clean.

## Main results

* `Roster.loadEach_texts` goes from texts to clean paths.
* `Roster.run_loadModule_of_setsUp` and `Roster.run_loadModule_of_fails` are about one module, and
  `Roster.setsUp_or_fails` says that these are all cases.
* `Roster.ordered_loadModules` puts them together.
-/

namespace CommandRouter

namespace Roster

variable {library : Library} {roster next last left : Roster} {fault : Fault}

/-! ### One registration -/

/-- The roster after a command was made and filed. -/
def enter (roster : Roster) (entry : Entry) : Roster :=
  ⟨roster.registry.file entry, roster.nextId + 1⟩

/-- The command that is made for a registration. -/
def commandOf (roster : Roster) (registration : Registration) (definition : Definition) :
    Command where
  instanceId := roster.nextId
  classId := registration.blueprint.classId
  definition := definition
  handler := registration.blueprint.handler
  prefixRule := registration.blueprint.prefixRule

/-- Whether a registration succeeds: its command can be made, and the table accepts it. -/
def Enters (roster : Roster) (registration : Registration) (entry : Entry) : Prop :=
  ∃ definition, registration.blueprint.config.definition = .ok definition ∧
    roster.registry.entryFor (some (roster.commandOf registration definition))
      registration.category = .ok entry

/-- How a registration may fail. A command that was made uses up an identity. -/
inductive Refuses (roster : Roster) (registration : Registration) : Fault → Roster → Prop
  /-- The command cannot be made. -/
  | undefinable {fault : Fault}
      (undefined : registration.blueprint.config.definition = .error fault) :
      Refuses roster registration fault roster
  /-- The table does not accept the command. -/
  | unacceptable {fault : Fault} {definition : Definition}
      (defined : registration.blueprint.config.definition = .ok definition)
      (refused : roster.registry.entryFor (some (roster.commandOf registration definition))
        registration.category = .error fault) :
      Refuses roster registration fault { roster with nextId := roster.nextId + 1 }

/-- A registration that fails adds nothing to the table. -/
theorem Refuses.registry {registration : Registration}
    (h : Refuses roster registration fault left) : left.registry = roster.registry := by
  cases h <;> rfl

theorem enters_or_refuses (roster : Roster) (registration : Registration) :
    (∃ entry, roster.Enters registration entry) ∨
      ∃ fault left, Refuses roster registration fault left := by
  cases defined : registration.blueprint.config.definition with
  | error fault => exact Or.inr ⟨fault, roster, .undefinable defined⟩
  | ok definition =>
    cases decided : roster.registry.entryFor (some (roster.commandOf registration definition))
        registration.category with
    | error fault => exact Or.inr ⟨fault, _, .unacceptable defined decided⟩
    | ok entry => exact Or.inl ⟨entry, definition, defined, decided⟩

/-- Make a command and register it. -/
def enroll (registration : Registration) : Action Roster Entry := do
  let command ← make registration.blueprint
  register (some command) registration.category

theorem registerAll_cons (registration : Registration) (later : List Registration) :
    registerAll (registration :: later) = enroll registration >>= fun _ => registerAll later := by
  rw [registerAll, enroll, bind_assoc]

theorem run_make {registration : Registration} {definition : Definition}
    (defined : registration.blueprint.config.definition = .ok definition) (roster : Roster) :
    make registration.blueprint roster =
      ⟨[], { roster with nextId := roster.nextId + 1 },
        .ok (roster.commandOf registration definition)⟩ := by
  rw [make, defined]
  rfl

/-- What is logged of an entry that is filed. -/
def entering (entry : Entry) : Event := .logged (Registry.registeredNotice entry)

theorem run_enroll_of_enters {registration : Registration} {entry : Entry}
    (h : roster.Enters registration entry) :
    enroll registration roster = ⟨[entering entry], roster.enter entry, .ok entry⟩ := by
  obtain ⟨definition, defined, accepted⟩ := h
  rw [enroll, Action.run_bind_of_eq_ok (run_make defined roster), run_register]
  dsimp only
  rw [accepted]
  rfl

theorem run_enroll_of_refuses {registration : Registration}
    (h : Refuses roster registration fault left) :
    enroll registration roster = ⟨[], left, .error fault⟩ := by
  cases h with
  | undefinable undefined =>
    have failed : make registration.blueprint roster = ⟨[], roster, .error fault⟩ := by
      rw [make, undefined]
      rfl
    exact Action.run_bind_of_eq_error failed
  | unacceptable defined refused =>
    rw [enroll, Action.run_bind_of_eq_ok (run_make defined roster), run_register]
    dsimp only
    rw [refused]
    rfl

/-! ### The setup of a module -/

/-- Whether registrations succeed one after another, with the entries that they add and the roster
that they leave. -/
inductive Entered : Roster → List Registration → List Entry → Roster → Prop
  /-- Nothing is registered. -/
  | nil (roster : Roster) : Entered roster [] [] roster
  /-- One registration succeeds, and the others after it. -/
  | cons {roster next : Roster} {registration : Registration} {later : List Registration}
      {entry : Entry} {entries : List Entry} (first : roster.Enters registration entry)
      (others : Entered (roster.enter entry) later entries next) :
      Entered roster (registration :: later) (entry :: entries) next

namespace Entered

variable {registrations : List Registration} {entries : List Entry}

/-- Registrations that succeed are done before those after them. -/
theorem run_registerAll (entered : Entered roster registrations entries next)
    (later : List Registration) :
    registerAll (registrations ++ later) roster =
      ⟨entries.map entering ++ (registerAll later next).events, (registerAll later next).state,
        (registerAll later next).result⟩ := by
  induction entered with
  | nil roster => rfl
  | cons first others ih =>
    rw [List.cons_append, registerAll_cons, Action.run_bind_of_eq_ok (run_enroll_of_enters first),
      ih]
    rfl

/-- **Every registration adds its entry at the end of the table.** -/
theorem entries_eq (entered : Entered roster registrations entries next)
    (consistent : roster.registry.Consistent) :
    next.registry.Consistent ∧ next.registry.entries = roster.registry.entries ++ entries := by
  induction entered with
  | nil roster => exact ⟨consistent, (List.append_nil _).symm⟩
  | @cons roster next registration later entry entries first others ih =>
    obtain ⟨definition, -, accepted⟩ := first
    have fresh := Registry.get?_filingKey_of_entryFor consistent accepted
    have filed : (roster.enter entry).registry.entries = roster.registry.entries ++ [entry] :=
      Registry.entries_file fresh
    obtain ⟨kept, grown⟩ := ih (consistent.file accepted)
    refine ⟨kept, ?_⟩
    rw [grown, filed, List.append_assoc]
    rfl

end Entered

/-- Either all registrations succeed, or there is a first one that fails. -/
theorem entered_or_refuses (registrations : List Registration) (roster : Roster) :
    (∃ entries next, Entered roster registrations entries next) ∨
      ∃ earlier registration later entries next fault left,
        registrations = earlier ++ registration :: later ∧ Entered roster earlier entries next ∧
          Refuses next registration fault left := by
  induction registrations generalizing roster with
  | nil => exact Or.inl ⟨[], roster, .nil roster⟩
  | cons registration later ih =>
    rcases enters_or_refuses roster registration with ⟨entry, first⟩ | ⟨fault, left, refused⟩
    · rcases ih (roster.enter entry) with ⟨entries, next, others⟩ |
        ⟨earlier, stop, rest, entries, next, fault, left, rfl, others, refused⟩
      · exact Or.inl ⟨entry :: entries, next, .cons first others⟩
      · exact Or.inr ⟨registration :: earlier, stop, rest, entry :: entries, next, fault, left,
          rfl, .cons first others, refused⟩
    · exact Or.inr ⟨[], registration, later, [], roster, fault, left, rfl, .nil roster, refused⟩

/-- Whether a module is set up: it can be imported and has a setup, which registers everything and
does not fail. -/
def SetsUp (library : Library) (path : String) (roster : Roster) (entries : List Entry)
    (next : Roster) : Prop :=
  ∃ setup, library.importModule path = .ok (some setup) ∧
    Entered roster setup.registrations entries next ∧ setup.failure = none

/-- How the loading of a module may fail, with the entries that it has added until then. -/
inductive Fails (library : Library) (path : String) (roster : Roster) :
    List Entry → Fault → Roster → Prop
  /-- The module cannot be found, or it fails while it is imported. -/
  | unimportable {fault : Fault} (failed : library.importModule path = .error fault) :
      Fails library path roster [] (Library.importFault path fault) roster
  /-- The module has no setup. -/
  | noSetup (found : library.importModule path = .ok none) :
      Fails library path roster [] (.noSetup path) roster
  /-- The setup stops at a registration that fails. -/
  | refused {setup : Setup} {earlier later : List Registration} {registration : Registration}
      {entries : List Entry} {next left : Roster} {fault : Fault}
      (found : library.importModule path = .ok (some setup))
      (listed : setup.registrations = earlier ++ registration :: later)
      (entered : Entered roster earlier entries next)
      (refused : Refuses next registration fault left) :
      Fails library path roster entries fault left
  /-- The setup fails after all registrations. -/
  | abandoned {setup : Setup} {entries : List Entry} {next : Roster} {fault : Fault}
      (found : library.importModule path = .ok (some setup))
      (entered : Entered roster setup.registrations entries next)
      (failure : setup.failure = some fault) : Fails library path roster entries fault next

/-! ### One module -/

theorem setsUp_or_fails (library : Library) (path : String) (roster : Roster) :
    (∃ entries next, SetsUp library path roster entries next) ∨
      ∃ entries fault left, Fails library path roster entries fault left := by
  cases found : library.importModule path with
  | error fault => exact Or.inr ⟨_, _, _, .unimportable found⟩
  | ok entrance =>
    cases entrance with
    | none => exact Or.inr ⟨_, _, _, .noSetup found⟩
    | some setup =>
      rcases entered_or_refuses setup.registrations roster with ⟨entries, next, entered⟩ |
        ⟨earlier, registration, later, entries, next, fault, left, listed, entered, refused⟩
      · cases failure : setup.failure with
        | none => exact Or.inl ⟨entries, next, setup, found, entered, failure⟩
        | some fault => exact Or.inr ⟨_, _, _, .abandoned found entered failure⟩
      · exact Or.inr ⟨_, _, _, .refused found listed entered refused⟩

/-- What is logged of a module that was loaded. -/
def loadedNotice (path : String) (entries : List Entry) : Notice :=
  .info "CommandLoader" ("Loaded " ++ path ++ " (" ++ toString entries.length ++ " commands)")

/-- What is done when a module is loaded. -/
def loading (path : String) (entries : List Entry) : List Event :=
  entries.map entering ++ [.logged (loadedNotice path entries)]

theorem setupOf_of_importModule {path : String} {setup : Setup}
    (found : library.importModule path = .ok (some setup)) :
    library.setupOf path = .ok setup := by
  rw [Library.setupOf, found]

/-- After the setup of a module its load is logged, with the growth of the table. -/
theorem run_loadModule {path : String} {setup : Setup}
    (found : library.setupOf path = .ok setup) (roster : Roster) :
    loadModule library path roster = (runSetup setup >>= fun _ => do
      let after ← Action.get
      Action.log (.info "CommandLoader" ("Loaded " ++ path ++ " (" ++
        toString (after.registry.size - roster.registry.size) ++ " commands)"))) roster := by
  rw [loadModule, found, Action.run_ofExcept_ok_bind, Action.run_get_bind]

theorem run_loadModule_of_setupOf_error {path : String}
    (missing : library.setupOf path = .error fault) (roster : Roster) :
    loadModule library path roster = ⟨[], roster, .error fault⟩ := by
  rw [loadModule, missing, Action.run_ofExcept_error_bind]

theorem run_loadModule_of_runSetup_error {path : String} {setup : Setup}
    (found : library.setupOf path = .ok setup) {events : List Event}
    (failed : runSetup setup roster = ⟨events, left, .error fault⟩) :
    loadModule library path roster = ⟨events, left, .error fault⟩ := by
  rw [run_loadModule found]
  exact Action.run_bind_of_eq_error failed

/-- All registrations of a setup are done before it may fail. -/
theorem run_runSetup {setup : Setup} {entries : List Entry}
    (entered : Entered roster setup.registrations entries next) :
    runSetup setup roster = ⟨entries.map entering, next,
      match setup.failure with
      | some fault => .error fault
      | none => .ok ()⟩ := by
  have registered := entered.run_registerAll []
  rw [List.append_nil] at registered
  rw [runSetup, Action.run_bind_of_eq_ok registered]
  cases setup.failure <;> simp [registerAll]

theorem run_loadModule_of_setsUp {path : String} {entries : List Entry}
    (setsUp : SetsUp library path roster entries next) (consistent : roster.registry.Consistent) :
    loadModule library path roster = ⟨loading path entries, next, .ok ()⟩ := by
  obtain ⟨setup, found, entered, failure⟩ := setsUp
  have grown : next.registry.size - roster.registry.size = entries.length := by
    rw [← Registry.length_entries, ← Registry.length_entries, (entered.entries_eq consistent).2,
      List.length_append]
    omega
  have done := run_runSetup entered
  rw [failure] at done
  rw [run_loadModule (setupOf_of_importModule found), Action.run_bind_of_eq_ok done,
    Action.run_get_bind, Action.run_log, grown]
  rfl

theorem run_loadModule_of_fails {path : String} {entries : List Entry}
    (fails : Fails library path roster entries fault left) :
    loadModule library path roster = ⟨entries.map entering, left, .error fault⟩ := by
  cases fails with
  | unimportable failed =>
    exact run_loadModule_of_setupOf_error (by rw [Library.setupOf, failed]) _
  | noSetup found =>
    exact run_loadModule_of_setupOf_error (by rw [Library.setupOf, found]) _
  | @refused setup earlier later registration _ next _ _ found listed entered refused =>
    refine run_loadModule_of_runSetup_error (setupOf_of_importModule found) ?_
    have stopped := entered.run_registerAll (registration :: later)
    have stop : registerAll (registration :: later) next = ⟨[], left, .error fault⟩ := by
      rw [registerAll_cons]
      exact Action.run_bind_of_eq_error (run_enroll_of_refuses refused)
    rw [stop, ← listed, List.append_nil] at stopped
    exact Action.run_bind_of_eq_error stopped
  | @abandoned setup _ _ _ found entered failure =>
    refine run_loadModule_of_runSetup_error (setupOf_of_importModule found) ?_
    rw [run_runSetup entered, failure]

/-- What a module that fails has added to the table stays there. -/
theorem Fails.entries_eq {path : String} {entries : List Entry}
    (fails : Fails library path roster entries fault left)
    (consistent : roster.registry.Consistent) :
    left.registry.entries = roster.registry.entries ++ entries := by
  cases fails with
  | unimportable | noSetup => exact (List.append_nil _).symm
  | refused found listed entered refused =>
    rw [refused.registry]
    exact (entered.entries_eq consistent).2
  | abandoned found entered failure => exact (entered.entries_eq consistent).2

/-! ### Several modules -/

/-- Whether modules are loaded one after another, each on what the ones before it have left, with
the entries that each of them adds. -/
inductive Loads (library : Library) : Roster → List String → List (List Entry) → Roster → Prop
  /-- Nothing is loaded. -/
  | nil (roster : Roster) : Loads library roster [] [] roster
  /-- One module is set up, and the others after it. -/
  | cons {roster next last : Roster} {path : String} {later : List String} {entries : List Entry}
      {growths : List (List Entry)} (first : SetsUp library path roster entries next)
      (others : Loads library next later growths last) :
      Loads library roster (path :: later) (entries :: growths) last

/-- Load the modules of clean paths one after another. -/
def loadPaths (library : Library) : List String → Action Roster Unit
  | [] => return ()
  | path :: later => do
    loadModule library path
    loadPaths library later

/-- The clean paths among some texts: without the blanks around them, and without blank ones. -/
def usablePaths (given : List String) : List String :=
  (given.map trim).filter fun path => !path.isEmpty

/-- **Loading texts is loading the clean paths among them.** -/
theorem loadEach_texts (library : Library) (given : List String) :
    loadEach library (given.map .text) =
      loadPaths library (usablePaths given) >>= fun _ => pure (usablePaths given) := by
  induction given with
  | nil => rfl
  | cons text later ih =>
    have looked : Action.ofExcept (usablePath? (.text text)) =
        (pure (if (trim text).isEmpty then none else some (trim text)) : Action Roster _) := rfl
    rw [List.map_cons, loadEach, looked, pure_bind]
    by_cases blank : (trim text).isEmpty
    · have dropped : usablePaths (text :: later) = usablePaths later := by
        simp [usablePaths, blank]
      rw [if_pos blank, dropped, ← ih]
    · have kept : usablePaths (text :: later) = trim text :: usablePaths later := by
        simp [usablePaths, blank]
      rw [if_neg blank, kept, loadPaths, bind_assoc, ih]
      simp only [bind_assoc, pure_bind]

namespace Loads

variable {paths : List String} {growths : List (List Entry)}

/-- Modules that can be loaded are loaded before those after them. -/
theorem run_loadPaths (loads : Loads library roster paths growths last)
    (consistent : roster.registry.Consistent) (later : List String) :
    loadPaths library (paths ++ later) roster =
      ⟨(List.zipWith loading paths growths).flatten ++ (loadPaths library later last).events,
        (loadPaths library later last).state, (loadPaths library later last).result⟩ := by
  induction loads with
  | nil roster => rfl
  | cons first others ih =>
    obtain ⟨setup, _, entered, _⟩ := id first
    rw [List.cons_append, loadPaths,
      Action.run_bind_of_eq_ok (run_loadModule_of_setsUp first consistent),
      ih (entered.entries_eq consistent).1, List.zipWith_cons_cons, List.flatten_cons,
      List.append_assoc]

/-- **The table grows by what the modules register**, in order. -/
theorem entries_eq (loads : Loads library roster paths growths last)
    (consistent : roster.registry.Consistent) :
    last.registry.Consistent ∧
      last.registry.entries = roster.registry.entries ++ growths.flatten := by
  induction loads with
  | nil roster => exact ⟨consistent, (List.append_nil _).symm⟩
  | cons first others ih =>
    obtain ⟨setup, _, entered, _⟩ := first
    obtain ⟨kept, grown⟩ := entered.entries_eq consistent
    obtain ⟨kept', grown'⟩ := ih kept
    refine ⟨kept', ?_⟩
    rw [grown', grown, List.append_assoc, List.flatten_cons]

theorem size_eq (loads : Loads library roster paths growths last)
    (consistent : roster.registry.Consistent) :
    last.registry.size = roster.registry.size + (growths.map List.length).sum := by
  rw [← Registry.length_entries, ← Registry.length_entries, (loads.entries_eq consistent).2,
    List.length_append, List.length_flatten]

/-- The libraries need not be the same, as long as the modules are. -/
theorem congr (loads : Loads library roster paths growths last) {library' : Library}
    (same : ∀ path ∈ paths, library'.importModule path = library.importModule path) :
    Loads library' roster paths growths last := by
  induction loads with
  | nil roster => exact .nil roster
  | cons first others ih =>
    obtain ⟨here, there⟩ := List.forall_mem_cons.1 same
    obtain ⟨setup, found, entered, failure⟩ := first
    exact .cons ⟨setup, here.trans found, entered, failure⟩ (ih there)

end Loads

/-- The libraries need not be the same, as long as the module is. -/
theorem Fails.congr {path : String} {entries : List Entry}
    (fails : Fails library path roster entries fault left) {library' : Library}
    (same : library'.importModule path = library.importModule path) :
    Fails library' path roster entries fault left := by
  cases fails with
  | unimportable failed => exact .unimportable (same.trans failed)
  | noSetup found => exact .noSetup (same.trans found)
  | refused found listed entered refused =>
    exact .refused (same.trans found) listed entered refused
  | abandoned found entered failure => exact .abandoned (same.trans found) entered failure

/-- Either all modules can be loaded, or there is a first one that fails. -/
theorem loads_or_fails (library : Library) (paths : List String) (roster : Roster) :
    (∃ growths last, Loads library roster paths growths last) ∨
      ∃ earlier path later growths next entries fault left,
        paths = earlier ++ path :: later ∧ Loads library roster earlier growths next ∧
          Fails library path next entries fault left := by
  induction paths generalizing roster with
  | nil => exact Or.inl ⟨[], roster, .nil roster⟩
  | cons path later ih =>
    rcases setsUp_or_fails library path roster with ⟨entries, next, first⟩ |
      ⟨entries, fault, left, fails⟩
    · rcases ih next with ⟨growths, last, others⟩ |
        ⟨earlier, stop, rest, growths, next, entries', fault, left, rfl, others, fails⟩
      · exact Or.inl ⟨entries :: growths, last, .cons first others⟩
      · exact Or.inr ⟨path :: earlier, stop, rest, entries :: growths, next, entries', fault, left,
          rfl, .cons first others, fails⟩
    · exact Or.inr ⟨[], path, later, [], roster, entries, fault, left, rfl, .nil roster, fails⟩

/-- What is logged when everything was loaded. -/
def finalNotice (commands modules : Nat) : Notice :=
  .info "CommandLoader" ("Registered " ++ toString commands ++ " commands from " ++
    toString modules ++ " modules")

/-- To load the modules of texts is to load those of the clean paths, and to say how it went. -/
theorem loadModules_texts (library : Library) (given : List String) :
    loadModules library (.list (given.map .text)) =
      loadPaths library (usablePaths given) >>= fun _ => do
        let roster ← Action.get
        Action.log (finalNotice roster.registry.size (usablePaths given).length)
        return usablePaths given := by
  have listed : (Action.ofExcept (Value.list (given.map .text)).items : Action Roster _) =
      pure (given.map .text) := rfl
  rw [loadModules, listed, pure_bind, loadEach_texts, bind_assoc]
  simp only [pure_bind]
  rfl

theorem run_loadModules_of_loads {given : List String} {growths : List (List Entry)}
    (loads : Loads library roster (usablePaths given) growths last)
    (consistent : roster.registry.Consistent) :
    loadModules library (.list (given.map .text)) roster =
      ⟨(List.zipWith loading (usablePaths given) growths).flatten ++
          [.logged (finalNotice last.registry.size (usablePaths given).length)],
        last, .ok (usablePaths given)⟩ := by
  have loaded := loads.run_loadPaths consistent []
  simp only [List.append_nil, loadPaths, Action.run_pure] at loaded
  rw [loadModules_texts, Action.run_bind_of_eq_ok loaded]
  rfl

/-- **The first failure stops the loading.** -/
theorem run_loadModules_of_fails {given earlier later : List String} {path : String}
    {growths : List (List Entry)} {entries : List Entry}
    (clean : usablePaths given = earlier ++ path :: later)
    (loads : Loads library roster earlier growths next)
    (consistent : roster.registry.Consistent)
    (fails : Fails library path next entries fault left) :
    loadModules library (.list (given.map .text)) roster =
      ⟨(List.zipWith loading earlier growths).flatten ++ entries.map entering, left,
        .error fault⟩ := by
  have stopped := loads.run_loadPaths consistent (path :: later)
  have stop : loadPaths library (path :: later) next = ⟨entries.map entering, left, .error fault⟩ :=
    Action.run_bind_of_eq_error (run_loadModule_of_fails fails)
  rw [stop, ← clean] at stopped
  rw [loadModules_texts]
  exact Action.run_bind_of_eq_error stopped

/-- There is no result unless all modules can be loaded. -/
theorem exists_loads_of_eq_ok {given loaded : List String}
    (consistent : roster.registry.Consistent)
    (h : (loadModules library (.list (given.map .text)) roster).result = .ok loaded) :
    ∃ growths last, Loads library roster (usablePaths given) growths last := by
  rcases loads_or_fails library (usablePaths given) roster with loads |
    ⟨earlier, path, later, growths, next, entries, fault, left, clean, loads, fails⟩
  · exact loads
  · rw [run_loadModules_of_fails clean loads consistent fails] at h
    cases h

/-- A fault comes from the first module that cannot be loaded. -/
theorem exists_fails_of_eq_error {given : List String} (consistent : roster.registry.Consistent)
    (h : (loadModules library (.list (given.map .text)) roster).result = .error fault) :
    ∃ earlier path later growths next entries, usablePaths given = earlier ++ path :: later ∧
      Loads library roster earlier growths next ∧
      Fails library path next entries fault
        (loadModules library (.list (given.map .text)) roster).state := by
  rcases loads_or_fails library (usablePaths given) roster with ⟨growths, last, loads⟩ |
    ⟨earlier, path, later, growths, next, entries, fault', left, clean, loads, fails⟩
  · rw [run_loadModules_of_loads loads consistent] at h
    cases h
  · have stopped := run_loadModules_of_fails clean loads consistent fails
    rw [stopped] at h
    cases h
    rw [stopped]
    exact ⟨earlier, path, later, growths, next, entries, clean, loads, fails⟩

/-! ### What is logged -/

/-- What the loading of modules logs itself. -/
def loaderNotices (events : List Event) : List Notice :=
  (events.filterMap Event.notice?).filter fun notice => notice.logger == "CommandLoader"

theorem loaderNotices_append (events events' : List Event) :
    loaderNotices (events ++ events') = loaderNotices events ++ loaderNotices events' := by
  rw [loaderNotices, List.filterMap_append, List.filter_append, loaderNotices, loaderNotices]

theorem loaderNotices_entering (entries : List Entry) :
    loaderNotices (entries.map entering) = [] := by
  induction entries with
  | nil => rfl
  | cons entry later ih => exact ih

theorem loaderNotices_loading (path : String) (entries : List Entry) :
    loaderNotices (loading path entries) = [loadedNotice path entries] := by
  rw [loading, loaderNotices_append, loaderNotices_entering]
  rfl

/-- Every module is reported once, in order, with the number of its entries. -/
theorem loaderNotices_flatten (paths : List String) (growths : List (List Entry)) :
    loaderNotices (List.zipWith loading paths growths).flatten =
      List.zipWith loadedNotice paths growths := by
  induction paths generalizing growths with
  | nil => rfl
  | cons path later ih =>
    cases growths with
    | nil => rfl
    | cons entries others =>
      rw [List.zipWith_cons_cons, List.flatten_cons, loaderNotices_append, loaderNotices_loading,
        ih, List.zipWith_cons_cons]
      rfl

/-! ### The whole of it -/

/-- **Modules are loaded in order, up to the first failure.** Loading succeeds exactly if all
modules can be loaded one after another. Then the result is the clean paths, and the table has grown
by what each module has registered, as it is logged. Otherwise the fault is that of the first module
that fails, the table has grown by what was registered until then, and what comes after that module
makes no difference. -/
theorem ordered_loadModules (categories : Categories) (history : List Operation) (nextId : Nat)
    (library : Library) (given : List String) :
    let roster : Roster := ⟨(after (create categories) history).registry, nextId⟩
    let paths := usablePaths given
    let outcome := loadModules library (.list (given.map .text)) roster
    ((∃ loaded, outcome.result = .ok loaded) ↔
        ∃ growths last, Loads library roster paths growths last) ∧
      (∀ growths last, Loads library roster paths growths last →
        outcome.result = .ok paths ∧ outcome.state = last ∧
          last.registry.entries = roster.registry.entries ++ growths.flatten ∧
          last.registry.size = roster.registry.size + (growths.map List.length).sum ∧
          loaderNotices outcome.events =
            List.zipWith loadedNotice paths growths ++
              [finalNotice last.registry.size paths.length]) ∧
      ∀ fault, outcome.result = .error fault →
        ∃ earlier path later growths next entries, paths = earlier ++ path :: later ∧
          Loads library roster earlier growths next ∧
          Fails library path next entries fault outcome.state ∧
          outcome.state.registry.entries =
            roster.registry.entries ++ growths.flatten ++ entries ∧
          loaderNotices outcome.events = List.zipWith loadedNotice earlier growths ∧
          ∀ library' given' later', usablePaths given' = earlier ++ path :: later' →
            (∀ known ∈ earlier ++ [path],
              library'.importModule known = library.importModule known) →
            loadModules library' (.list (given'.map .text)) roster = outcome := by
  intro roster paths outcome
  have consistent : roster.registry.Consistent :=
    (consistent_after (Registry.consistent_empty categories) history).1
  refine ⟨⟨?_, ?_⟩, ?_, ?_⟩
  · rintro ⟨loaded, result⟩
    exact exists_loads_of_eq_ok consistent result
  · rintro ⟨growths, last, loads⟩
    exact ⟨paths, congrArg Outcome.result (run_loadModules_of_loads loads consistent)⟩
  · intro growths last loads
    have ran : outcome = _ := run_loadModules_of_loads loads consistent
    rw [ran]
    refine ⟨rfl, rfl, (loads.entries_eq consistent).2, loads.size_eq consistent, ?_⟩
    rw [loaderNotices_append, loaderNotices_flatten]
    rfl
  · intro fault result
    obtain ⟨earlier, path, later, growths, next, entries, clean, loads, fails⟩ :=
      exists_fails_of_eq_error consistent result
    obtain ⟨kept, grown⟩ := loads.entries_eq consistent
    have stopped : outcome = _ := run_loadModules_of_fails clean loads consistent fails
    refine ⟨earlier, path, later, growths, next, entries, clean, loads, fails, ?_, ?_, ?_⟩
    · rw [fails.entries_eq kept, grown]
    · rw [stopped, loaderNotices_append, loaderNotices_flatten, loaderNotices_entering,
        List.append_nil]
    · intro library' given' later' clean' same
      obtain ⟨before, here⟩ := List.forall_mem_append.1 same
      rw [stopped]
      exact run_loadModules_of_fails clean' (loads.congr before) consistent
        (fails.congr (here path (List.mem_singleton_self path)))

/-- The second module stops half-way, at a trigger that the first one has taken. -/
example :
    let registering (name trigger : String) : Registration := {
      blueprint := {
        config := {
          name := some (.ofText name), description := .text name,
          triggers := .list [.text trigger] }
        handler := .scripted (.text name) none none }
      category := none }
    let library := Library.ofList 9 [
      ("a", .loaded (some ⟨[registering "ping" "ping"], none⟩)),
      ("b", .loaded (some
        ⟨[registering "pong" "pong", registering "ring" "PING", registering "late" "late"], none⟩))]
    let roster := after (create .empty) [.addCategory (.ofTexts "Utility" "!")]
    let outcome := loadModules library (.list [.text " a ", .text " ", .text "b", .text "c"]) roster
    outcome.result = .error (.triggerTaken "!PING" "ring" "ping") ∧
      outcome.state.registry.entries.map Entry.name = [.ofText "ping", .ofText "pong"] :=
  ⟨rfl, rfl⟩

end Roster

end CommandRouter
