import EndpointGuard.Declare.Expansion
import EndpointGuard.Main
import EndpointGuard.Proofs.CallSite
import EndpointGuard.Proofs.Isolation
import EndpointGuard.Settings.Reader
import EndpointGuard.Showcase.Site
import EndpointGuard.Proofs.MarkerList
import EndpointGuard.Proofs.AuditTrail
import EndpointGuard.Proofs.BuilderChain
import EndpointGuard.Proofs.Expansion
import EndpointGuard.Proofs.CallerContext
import EndpointGuard.Proofs.Listing
import EndpointGuard.Proofs.LogLines
import EndpointGuard.Proofs.OrderRun
import EndpointGuard.Proofs.NormalPath
import EndpointGuard.Proofs.CallAddress
import EndpointGuard.Proofs.RoleRule
import EndpointGuard.Proofs.RoleQuestions
import EndpointGuard.Proofs.Spelling
import EndpointGuard.Proofs.OwnMethods
import EndpointGuard.Proofs.AuditPipeline
import EndpointGuard.Proofs.PolicyMarkers
import EndpointGuard.Proofs.ArgumentList
import EndpointGuard.Proofs.RawNames
import EndpointGuard.Proofs.EventFields
import EndpointGuard.Proofs.JsonText
import EndpointGuard.Proofs.EventJson
import EndpointGuard.Proofs.EventLine
import EndpointGuard.Proofs.OrderNumbers
import EndpointGuard.Proofs.OrderList
import EndpointGuard.Proofs.PathClasses
import EndpointGuard.Proofs.GrantedNames
