import EndpointGuard.Text.Blank

/-!
# Call paths

A path under the configured one names an endpoint and a method. `CallPath.classify` tells calls,
malformed calls and paths elsewhere apart; slashes at the end of the configured path do not matter.
-/

namespace EndpointGuard

/-- What a path is with regard to the path under which endpoints are called. -/
inductive CallPath where
  | outside
  | call (endpoint method : String)
  | malformed (endpoint method : String)
deriving DecidableEq

namespace CallPath

/-- Split the text below the configured path at its first slash. -/
def ofRest (rest : List Char) : CallPath :=
  let endpoint := rest.takeWhile (· ≠ '/')
  let method := (rest.dropWhile (· ≠ '/')).drop 1
  if endpoint = [] ∨ method = [] ∨ '/' ∈ method then
    .malformed (String.ofList endpoint) (String.ofList method)
  else
    .call (String.ofList endpoint) (String.ofList method)

/-- Classify a path with regard to the configured one. -/
def classify (path configured : String) : CallPath :=
  match (Text.dropEnd (· = '/') configured.toList).isPrefixOf? path.toList with
  | none => .outside
  | some [] => ofRest []
  | some ('/' :: rest) => ofRest rest
  | some (_ :: _) => .outside

end CallPath

end EndpointGuard
