import EndpointGuard.Demo.Startup

/-!
# The demo program

Prints the startup text for the settings that the environment gives.
-/

open EndpointGuard

/-- Print the startup text. -/
def main : IO Unit := do
  let devMode ← IO.getEnv Settings.devModeVariable
  let pathPrefix ← IO.getEnv Settings.pathPrefixVariable
  let rolePrefix ← IO.getEnv Settings.rolePrefixVariable
  let settings := Settings.ofEnvironment fun name ↦
    if name = Settings.devModeVariable then devMode
    else if name = Settings.pathPrefixVariable then pathPrefix
    else if name = Settings.rolePrefixVariable then rolePrefix
    else none
  for line in Demo.startupLines settings Demo.registry do
    IO.println line
