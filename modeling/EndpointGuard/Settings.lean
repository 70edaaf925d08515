import EndpointGuard.Checker
import EndpointGuard.Text.Blank
import EndpointGuard.Text.LowerCase

/-!
# Settings

What can be configured: development mode, the path under which endpoints are called, and the role
prefix. The path is brought into a normal form by `normalizePath` when it is set or read from the
environment.
-/

namespace EndpointGuard

/-- The configuration of the guard. -/
structure Settings where
  devMode : Bool
  pathPrefix : String
  rolePrefix : Option String
deriving DecidableEq

/-- A path with a slash in front, without blanks around it and without slashes at its end. -/
def normalizePath (given : String) : String :=
  let inner := Text.dropEnd (· = '/') (Text.trimChars given.toList)
  match inner with
  | '/' :: _ => String.ofList inner
  | _ => String.ofList ('/' :: inner)

/-- A text that switches a flag on: one of four words, blanks around it and case apart. -/
def readFlag (given : String) : Bool :=
  let word := (Text.trimChars given.toList).map Text.lowerAscii
  word ∈ ["1".toList, "true".toList, "yes".toList, "on".toList]

namespace Settings

/-- The settings where nothing is configured. -/
def standard : Settings where
  devMode := false
  pathPrefix := "/connect"
  rolePrefix := RolePrefix.standard.text?

/-- Switch development mode. -/
def setDevMode (settings : Settings) (devMode : Bool) : Settings :=
  { settings with devMode := devMode }

/-- Set the path under which endpoints are called. -/
def setPathPrefix (settings : Settings) (given : String) : Settings :=
  { settings with pathPrefix := normalizePath given }

/-- Set the role prefix; an empty one is none. -/
def setRolePrefix (settings : Settings) (given : Option String) : Settings :=
  { settings with rolePrefix := (RolePrefix.ofText? given).text? }

/-- The environment variable of development mode. -/
def devModeVariable : String :=
  "ENDPOINT_ACCESS_DEV_MODE"

/-- The environment variable of the path. -/
def pathPrefixVariable : String :=
  "ENDPOINT_ACCESS_PREFIX"

/-- The environment variable of the role prefix. -/
def rolePrefixVariable : String :=
  "ENDPOINT_ACCESS_ROLE_PREFIX"

/-- The settings that environment variables give. -/
def ofEnvironment (lookup : String → Option String) : Settings :=
  let settings :=
    match lookup devModeVariable with
    | some value => standard.setDevMode (readFlag value)
    | none => standard
  let settings :=
    match lookup pathPrefixVariable with
    | some value => settings.setPathPrefix value
    | none => settings
  match lookup rolePrefixVariable with
  | some value => settings.setRolePrefix (some value)
  | none => settings

/-- The checker that settings call for. -/
def checker (settings : Settings) : Checker where
  devMode := settings.devMode
  rolePrefix := .ofText? settings.rolePrefix

end Settings

end EndpointGuard
