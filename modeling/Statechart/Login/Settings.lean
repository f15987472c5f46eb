import Statechart.Document.Reader
import Statechart.Login.Documents

/-!
# Settings of a session
-/
namespace Statechart.Login

/-- How a session is set up. -/
structure Settings where
  machineId : String := "authentication"
  credentials : Credentials := {}
  /-- Milliseconds between two renewals; without it there are none. -/
  renewInterval : Option UInt64 := none
  storePath : Option String := none
  interpreter : Options := {}
  deriving DecidableEq, Repr

/-- A setting that makes no sense. -/
inductive SettingsError where
  | blankMachineId
  | zeroRenewInterval
  | zeroMicrosteps
  deriving DecidableEq, Repr

namespace SettingsError

def field : SettingsError → String
  | .blankMachineId => "machine_id"
  | .zeroRenewInterval => "renew_interval_ms"
  | .zeroMicrosteps => "interpreter.max_microsteps"

def reason : SettingsError → String
  | .blankMachineId => "must not be empty"
  | .zeroRenewInterval => "must be greater than zero"
  | .zeroMicrosteps => "must be at least 1"

/-- The error as told to people. -/
def message (error : SettingsError) : String := "Invalid " ++ error.field ++ ": " ++ error.reason

end SettingsError

/-- Why settings could not be had. -/
inductive SettingsFailure where
  /-- There is no file, or it holds no text. -/
  | unreadable
  /-- The text is no document of settings. -/
  | malformed
  | invalid (error : SettingsError)
  deriving DecidableEq, Repr

namespace Settings

/-- The first setting that makes no sense. -/
def problem? (settings : Settings) : Option SettingsError :=
  if Text.isBlankText settings.machineId then some .blankMachineId
  else if settings.renewInterval = some 0 then some .zeroRenewInterval
  else if settings.interpreter.maxMicrosteps = 0 then some .zeroMicrosteps
  else none

def toDocument (settings : Settings) : Document :=
  .ofFields [("machine_id", .ofString settings.machineId),
    ("credentials", settings.credentials.toDocument),
    ("renew_interval_ms", .ofOption .ofUInt64 settings.renewInterval),
    ("store_path", .ofOption .ofString settings.storePath),
    ("interpreter", settings.interpreter.toDocument)]

/-- The settings of a document; what it lacks is as usual. -/
def ofDocument? (document : Document) : Option Settings := do
  let usual : Settings := {}
  let fields ← document.fields?
    ["machine_id", "credentials", "renew_interval_ms", "store_path", "interpreter"]
  let machineId ← fields.defaulted "machine_id" usual.machineId Document.string?
  let credentials ← fields.defaulted "credentials" usual.credentials Credentials.ofDocument?
  let renewInterval ← fields.nullable "renew_interval_ms" Document.natural?
  let storePath ← fields.nullable "store_path" Document.string?
  let interpreter ← fields.defaulted "interpreter" usual.interpreter Options.ofDocument?
  return { machineId, credentials, renewInterval, storePath, interpreter }

/-- The settings that a text describes, provided that they make sense. -/
def read (text : String) : Except SettingsFailure Settings :=
  match (Document.read? text).bind ofDocument? with
  | none => .error .malformed
  | some settings =>
    match settings.problem? with
    | none => .ok settings
    | some error => .error (.invalid error)

/-- The settings that the content of a file describes, if there is such a file and it is text. -/
def ofContent (content : Option String) : Except SettingsFailure Settings :=
  match content with
  | none => .error .unreadable
  | some text => read text

end Settings

end Statechart.Login
