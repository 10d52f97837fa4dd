import CommandRouter.Text.Quoted

/-!
# Faults

Everything that can go wrong is a `Fault`, named by its cause. A fault has a kind, by which it
is handled, and a message, which is shown. The faults of outside components need not have one: to
ask such a fault for its message fails as well, and that failure is what can be told.

## Main definitions

* `FaultKind` is the class of a fault.
* `Fault` is a cause, with `Fault.kind` and `Fault.message`.
* `Fault.isInterrupt` singles out the one kind that no recovery catches, and `Fault.isOrdinary` the
  faults that a recovery catches and can tell of.
-/

namespace CommandRouter

/-- The class of a fault. -/
inductive FaultKind where
  /-- A command, a category or a module is configured incorrectly. -/
  | configuration
  /-- Two commands share a trigger; a special case of `configuration`. -/
  | duplicateTrigger
  /-- A value is out of its domain. -/
  | value
  /-- A value is of the wrong kind. -/
  | type
  /-- A required key is missing. -/
  | key
  /-- An object lacks an attribute. -/
  | attribute
  /-- An operation failed while running. -/
  | runtime
  /-- The operating system refused an operation. -/
  | system
  /-- A module could not be imported. -/
  | importing
  /-- A number is too large to be converted. -/
  | overflow
  /-- There is not enough memory. -/
  | memory
  /-- A structure is nested too deeply. -/
  | recursion
  /-- A failure of no particular class. -/
  | general
  /-- The user interrupted the program. -/
  | interrupt
  deriving Repr, DecidableEq

/-- A cause of failure. -/
inductive Fault where
  /-- There is no command to register. -/
  | nullCommand
  /-- The category of a command is unknown. -/
  | unknownCategory (command : String)
  /-- A command has no description. -/
  | missingDescription (command : String)
  /-- A command has no trigger. -/
  | missingTrigger (command : String)
  /-- A full trigger of a command is already taken by another command. -/
  | triggerTaken (trigger command owner : String)
  /-- A key that must be there is missing. -/
  | missingKey (key : String)
  /-- There is no member of that name among the members of an enumeration. -/
  | unknownMember (shown : String)
  /-- There is no priority of that name. -/
  | unknownPriority (name : String)
  /-- A command module could not be imported. -/
  | importFailed (path reason : String)
  /-- A command module has no function that registers its commands. -/
  | noSetup (path : String)
  /-- A module path is empty. -/
  | emptyModulePath
  /-- A module path is relative. -/
  | relativeModulePath (path : String)
  /-- Too many modules have to be imported one inside the other. -/
  | importsTooDeep
  /-- A text is not an integer. -/
  | notInteger (text : String)
  /-- A text is not a number. -/
  | notNumber (text : String)
  /-- An integer has too many digits. -/
  | tooManyDigits (count : Nat)
  /-- An integer has too many digits to be written. -/
  | tooLongToWrite
  /-- A setting without a default is missing from the configuration. -/
  | missingSetting (name : String)
  /-- There is no setting of that name. -/
  | unknownSetting (name : String)
  /-- A text with a NUL character cannot stand in the environment. -/
  | nulCharacter
  /-- A name with an equals sign cannot stand in the environment. -/
  | illegalName
  /-- The empty name cannot stand in the environment. -/
  | emptyName
  /-- The access token is empty. -/
  | missingToken
  /-- The lifetime of cached settings is negative. -/
  | negativeLifetime
  /-- A repository was made without saying of what. -/
  | abstractRepository
  /-- A value of this kind stands where one of another kind must stand. -/
  | wrongKind (actual expected : String)
  /-- A value of this kind is not a key. -/
  | notAKey (valueKind : String)
  /-- Values of this kind have no such feature. -/
  | lacks (valueKind feature : String)
  /-- A value of this kind has no parts. -/
  | noParts (valueKind : String)
  /-- A value of this kind has no items to go through. -/
  | noItems (valueKind : String)
  /-- A value of this kind has no length. -/
  | noLength (valueKind : String)
  /-- No text starts with a value of this kind. -/
  | notABeginning (valueKind : String)
  /-- A value of this kind does not occur in a text. -/
  | notContained (valueKind : String)
  /-- A value of this kind has no members. -/
  | noMembers (valueKind : String)
  /-- A value that has no items to go through has none to join either. -/
  | notJoinable
  /-- An item is of this kind, and cannot be joined with others because it is no text. -/
  | notJoined (index : Nat) (valueKind : String)
  /-- A field is named by a value that is no text. -/
  | unnamedField
  /-- There is no level of that name. -/
  | unknownLevel (shown : String)
  /-- A value is neither a level nor the name of one. -/
  | notALevel (shown : String)
  /-- The level of a message must be an integer. -/
  | unnumberedLevel
  /-- A logger is named by a value that is no text. -/
  | unnamedLogger
  /-- An operator does not apply to values of these kinds. -/
  | unsupportedOperands (operator left right : String)
  /-- A value of the right kind cannot be put at the end of one of the left kind. -/
  | cannotAppend (left right : String)
  /-- Values of these kinds cannot be compared by an operator. -/
  | notComparable (operator left right : String)
  /-- A value of this kind is not the text of a number. -/
  | notNumeric (valueKind : String)
  /-- An integer is too large to be rounded to a double-precision number. -/
  | tooLargeToRound
  /-- A number that is not finite has no integer part. -/
  | notFinite (isNaN : Bool)
  /-- The lists and maps of a JSON text are nested too deeply; the innermost one is a map or not. -/
  | nestedTooDeeply (inMap : Bool)
  /-- A failure of an outside component. -/
  | raised (kind : FaultKind) (message : String)
  /-- A failure of an outside component that cannot say what it is. To ask it is a failure of
  another kind, which has a message. -/
  | unspoken (kind asked : FaultKind) (reason : String)
  deriving Repr, DecidableEq

namespace Fault

/-- The class of a fault. -/
def kind : Fault → FaultKind
  | nullCommand | unknownCategory _ | missingDescription _ | missingTrigger _ => .configuration
  | importFailed _ _ | noSetup _ => .configuration
  | triggerTaken _ _ _ => .duplicateTrigger
  | missingKey _ | unknownMember _ => .key
  | unknownPriority _ | emptyModulePath | notInteger _ | notNumber _ | tooManyDigits _ => .value
  | tooLongToWrite | nulCharacter | illegalName | missingToken | negativeLifetime => .value
  | unknownLevel _ => .value
  | emptyName => .system
  | missingSetting _ | unknownSetting _ | relativeModulePath _ | abstractRepository => .type
  | wrongKind _ _ | notAKey _ | noParts _ | noItems _ | noLength _ => .type
  | notABeginning _ | notContained _ | noMembers _ | notJoinable | notJoined _ _ => .type
  | unnamedField | notALevel _ | unnumberedLevel | unnamedLogger => .type
  | unsupportedOperands _ _ _ | cannotAppend _ _ | notComparable _ _ _ | notNumeric _ => .type
  | lacks _ _ => .attribute
  | tooLargeToRound => .overflow
  | notFinite isNaN => if isNaN then .value else .overflow
  | nestedTooDeeply _ | importsTooDeep => .recursion
  | raised kind _ => kind
  | unspoken kind _ _ => kind

/-- The message of a fault, if it has one. -/
def message : Fault → Except Fault String
  | nullCommand => .ok "Cannot register a null command"
  | unknownCategory command => .ok <|
    command ++ " :: Invalid command category, command category may not be null"
  | missingDescription command => .ok <| command ++ " :: Command description may not be null"
  | missingTrigger command => .ok <| command ++ " :: Command must have at least one trigger"
  | triggerTaken trigger command owner => .ok <|
    "The " ++ trigger ++ " command trigger used by " ++ command ++
      " is already registered by " ++ owner
  | missingKey key => .ok (quoted key)
  | unknownMember shown => .ok shown
  | unknownPriority name => .ok <| "Unknown command priority: " ++ name
  | importFailed path reason => .ok <| "Failed to import command module " ++ path ++ ": " ++ reason
  | noSetup path => .ok <| "Command module " ++ path ++ " has no setup(registry) function"
  | emptyModulePath => .ok "Empty module name"
  | relativeModulePath path => .ok <|
    "the 'package' argument is required to perform a relative import for " ++ quoted path
  | importsTooDeep => .ok "maximum recursion depth exceeded"
  | notInteger text => .ok <|
    "invalid literal for int() with base 10: " ++ String.ofList ((quoted text).toList.take 200)
  | notNumber text => .ok <| "could not convert string to float: " ++ quoted text
  | tooManyDigits count => .ok <|
    "Exceeds the limit (4300 digits) for integer string conversion: value has " ++
      toString count ++ " digits; use sys.set_int_max_str_digits() to increase the limit"
  | tooLongToWrite => .ok <|
    "Exceeds the limit (4300 digits) for integer string conversion; " ++
      "use sys.set_int_max_str_digits() to increase the limit"
  | missingSetting name => .ok <|
    "Config.__init__() missing 1 required positional argument: " ++ quoted name
  | unknownSetting name => .ok <|
    "Config.__init__() got an unexpected keyword argument " ++ quoted name
  | nulCharacter => .ok "embedded null byte"
  | illegalName => .ok "illegal environment variable name"
  | emptyName => .ok "[Errno 22] Invalid argument"
  | missingToken => .ok "DISCORD_TOKEN is required"
  | negativeLifetime => .ok "GUILD_CACHE_TTL must not be negative"
  | abstractRepository => .ok "Cannot instantiate abstract BaseRepository directly"
  | wrongKind actual expected => .ok <| expected ++ " expected, not " ++ actual
  | notAKey valueKind => .ok <| "unhashable type: '" ++ valueKind ++ "'"
  | lacks valueKind feature => .ok <|
    "'" ++ valueKind ++ "' object has no attribute '" ++ feature ++ "'"
  | noParts valueKind => .ok <| "'" ++ valueKind ++ "' object is not subscriptable"
  | noItems valueKind => .ok <| "'" ++ valueKind ++ "' object is not iterable"
  | noLength valueKind => .ok <| "object of type '" ++ valueKind ++ "' has no len()"
  | notABeginning valueKind => .ok <|
    "startswith first arg must be str or a tuple of str, not " ++ valueKind
  | notContained valueKind => .ok <|
    "'in <string>' requires string as left operand, not " ++ valueKind
  | noMembers valueKind => .ok <| "argument of type '" ++ valueKind ++ "' is not iterable"
  | notJoinable => .ok "can only join an iterable"
  | notJoined index valueKind => .ok <|
    "sequence item " ++ toString index ++ ": expected str instance, " ++ valueKind ++ " found"
  | unnamedField => .ok "keywords must be strings"
  | unknownLevel shown => .ok <| "Unknown level: " ++ shown
  | notALevel shown => .ok <| "Level not an integer or a valid string: " ++ shown
  | unnumberedLevel => .ok "level must be an integer"
  | unnamedLogger => .ok "A logger name must be a string"
  | unsupportedOperands operator left right => .ok <|
    "unsupported operand type(s) for " ++ operator ++ ": '" ++ left ++ "' and '" ++ right ++ "'"
  | cannotAppend left right => .ok <|
    "can only concatenate " ++ left ++ " (not \"" ++ right ++ "\") to " ++ left
  | notComparable operator left right => .ok <|
    "'" ++ operator ++ "' not supported between instances of '" ++ left ++ "' and '" ++ right ++ "'"
  | notNumeric valueKind => .ok <|
    "float() argument must be a string or a real number, not '" ++ valueKind ++ "'"
  | tooLargeToRound => .ok "int too large to convert to float"
  | notFinite isNaN => .ok <|
    if isNaN then "cannot convert float NaN to integer"
    else "cannot convert float infinity to integer"
  | nestedTooDeeply inMap => .ok <|
    "maximum recursion depth exceeded while decoding a JSON " ++
      (if inMap then "object" else "array") ++ " from a unicode string"
  | raised .key message => .ok (quoted message)
  | raised _ message => .ok message
  | unspoken _ asked reason => .error (raised asked reason)

/-- Whether the fault is an interruption by the user, which no recovery catches. -/
def isInterrupt (fault : Fault) : Bool :=
  fault.kind == .interrupt

/-- Whether the fault is caught by every recovery and has a message. -/
def isOrdinary (fault : Fault) : Bool :=
  !fault.isInterrupt && fault.message.isOk

/-- The fault that is left when a fault has been told of and goes on. An interruption is not told
of. -/
def told (fault : Fault) : Fault :=
  if fault.isInterrupt then fault
  else
    match fault.message with
    | .ok _ => fault
    | .error reason => reason

/-- Whether the fault says that the commands are configured incorrectly. -/
def isConfiguration (fault : Fault) : Bool :=
  fault.kind == .configuration || fault.kind == .duplicateTrigger

end Fault

end CommandRouter
