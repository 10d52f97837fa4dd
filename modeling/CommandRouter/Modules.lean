import CommandRouter.Registry.Roster
import CommandRouter.Text.DottedName

/-!
# Command modules

Commands come from modules that are named by dotted paths. Loading a module imports it and calls
its setup, which registers the commands of the module one after another. Modules are loaded in
order, and the first failure stops the loading; what was registered before stays. A module that is
loaded twice makes its commands anew, and the new ones clash with those of the first time.

## Main definitions

* `CommandModule` is a module, which may be a package, and `Library` the modules that can be found.
* `Library.define` defines a module, and `Library.importModule` finds the module of a path.
* `Roster.loadModule` and `Roster.loadModules` load modules.
-/

namespace CommandRouter

/-- A registration that the setup of a module makes. -/
structure Registration where
  /-- The command. -/
  blueprint : Blueprint
  /-- The category it is registered under, if not the one it names. -/
  category : Option Category

/-- The setup of a module. -/
structure Setup where
  /-- The registrations, in order. -/
  registrations : List Registration
  /-- The fault with which the setup ends, if it does. -/
  failure : Option Fault

/-- What is found under the name of a module. -/
inductive CommandModule where
  /-- A module that has been imported, with its setup if it has one. -/
  | loaded (setup : Option Setup) (isPackage : Bool := false)
  /-- A module that has not been imported yet, with its setup if it has one, or with the fault that
  its import comes to. -/
  | unloaded (contents : Except Fault (Option Setup)) (isPackage : Bool := false)

namespace CommandModule

/-- What the import of a module comes to. -/
def contents : CommandModule → Except Fault (Option Setup)
  | loaded setup _ => .ok setup
  | unloaded contents _ => contents

/-- Whether other modules may be inside a module. -/
def isPackage : CommandModule → Bool
  | loaded _ isPackage => isPackage
  | unloaded _ isPackage => isPackage

/-- Whether a module has been imported. -/
def isLoaded : CommandModule → Bool
  | loaded _ _ => true
  | unloaded _ _ => false

end CommandModule

/-- The modules that can be found. -/
structure Library where
  /-- The modules, by name. -/
  modules : Table String CommandModule
  /-- How many names may have to be imported one inside the other. -/
  depth : Nat

namespace Library

/-- A library without modules. -/
def empty (depth : Nat) : Library := ⟨.empty, depth⟩

/-- The module of a name. -/
def get? (library : Library) (name : String) : Option CommandModule := library.modules.get? name

/-- Define a module. A module that has been imported is found first, so that there is another one of
its name makes no difference to it; otherwise the last definition counts. -/
def define (library : Library) (name : String) (module : CommandModule) : Library :=
  match module, library.get? name with
  | .unloaded _ _, some (.loaded _ _) => library
  | module, _ => { library with modules := library.modules.insert name module }

/-- The library of modules that are defined one after another. -/
def ofList (depth : Nat) (modules : List (String × CommandModule)) : Library :=
  modules.foldl (fun library entry => library.define entry.1 entry.2) (.empty depth)

/-- Whether a module of some name has been imported. -/
def provides (library : Library) (name : String) : Bool :=
  (library.get? name).any CommandModule.isLoaded

/-- Whether there is a package of some name. -/
def isPackage (library : Library) (name : String) : Bool :=
  (library.get? name).any CommandModule.isPackage

/-- What the import of a module comes to when nothing stands in front of it any more. -/
def contents (library : Library) (name : String) : Except Fault (Option Setup) :=
  match library.get? name with
  | some module => module.contents
  | none => .error (.raised .importing ("No module named " ++ quoted name))

/-- The setup of a module, given its name followed by the names of its ancestors. A module that has
been imported is found by its name. Otherwise its parent is imported first, and only if that is a
package there can be a module inside it. -/
def importFrom (library : Library) : List String → Except Fault (Option Setup)
  | [] => .error .emptyModulePath
  | name :: parents =>
    if library.provides name then library.contents name
    else
      match parents with
      | [] => library.contents name
      | parent :: _ => do
        let _ ← importFrom library parents
        if library.isPackage parent then library.contents name
        else
          throw (.raised .importing
            ("No module named " ++ quoted name ++ "; " ++ quoted parent ++ " is not a package"))

/-- The setup of the module of a path. The ancestors are gone through up to the first that has been
imported, which must not be too far away. -/
def importModule (library : Library) (path : String) : Except Fault (Option Setup) :=
  let names := path :: ancestors path
  if path.isEmpty then .error .emptyModulePath
  else if path.toList.head? = some '.' then .error (.relativeModulePath path)
  else if library.depth < (names.takeWhile fun name => !library.provides name).length then
    .error .importsTooDeep
  else library.importFrom names

/-- What a fault of an import becomes. That there is nothing to import is an error of the
configuration, which says what the fault says. -/
def importFault (path : String) (fault : Fault) : Fault :=
  if fault.kind = .importing then
    match fault.message with
    | .ok reason => .importFailed path reason
    | .error reason => reason
  else fault

/-- The setup of the module of a path; that it cannot be imported, or has no setup, is an error
of the configuration. -/
def setupOf (library : Library) (path : String) : Except Fault Setup :=
  match library.importModule path with
  | .ok (some setup) => .ok setup
  | .ok none => .error (.noSetup path)
  | .error fault => .error (importFault path fault)

end Library

namespace Roster

/-- Make and register commands one after another. -/
def registerAll : List Registration → Action Roster Unit
  | [] => return ()
  | registration :: later => do
    let command ← make registration.blueprint
    let _ ← register (some command) registration.category
    registerAll later

/-- Run the setup of a module. -/
def runSetup (setup : Setup) : Action Roster Unit := do
  registerAll setup.registrations
  match setup.failure with
  | some fault => Action.raise fault
  | none => return ()

/-- Import a module and run its setup. -/
def loadModule (library : Library) (path : String) : Action Roster Unit := do
  let setup ← Action.ofExcept (library.setupOf path)
  let before ← Action.get
  runSetup setup
  let after ← Action.get
  Action.log (.info "CommandLoader" ("Loaded " ++ path ++ " (" ++
    toString (after.registry.size - before.registry.size) ++ " commands)"))

/-- The path that is loaded for a given one: without the blanks around it, and none if it is
blank. -/
def usablePath? (given : Value) : Except Fault (Option String) :=
  (given.textFor "strip").map fun path =>
    if (trim path).isEmpty then none else some (trim path)

/-- Load the modules of several paths one after another. A path is looked at when it is its turn, so
one that is no text stops the loading after the modules before it. The result is the paths that were
loaded. -/
def loadEach (library : Library) : List Value → Action Roster (List String)
  | [] => return []
  | given :: later => do
    match ← Action.ofExcept (usablePath? given) with
    | none => loadEach library later
    | some path =>
      loadModule library path
      let others ← loadEach library later
      return path :: others

/-- Load the modules of several paths. The result is the paths that were loaded. -/
def loadModules (library : Library) (paths : Value) : Action Roster (List String) := do
  let loaded ← loadEach library (← Action.ofExcept paths.items)
  let roster ← Action.get
  Action.log (.info "CommandLoader" ("Registered " ++ toString roster.registry.size ++
    " commands from " ++ toString loaded.length ++ " modules"))
  return loaded

end Roster

end CommandRouter
