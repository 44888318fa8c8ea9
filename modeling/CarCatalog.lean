import CarCatalog.Account.Desk
import CarCatalog.Account.Watch
import CarCatalog.App.Sitting
import CarCatalog.Host
import CarCatalog.Proofs.Api.Address
import CarCatalog.Proofs.App.Account
import CarCatalog.Proofs.App.Authorization
import CarCatalog.Proofs.App.Deletions
import CarCatalog.Proofs.App.Placed
import CarCatalog.Proofs.App.Rows
import CarCatalog.Proofs.App.Saves
import CarCatalog.Proofs.App.Shown
import CarCatalog.Proofs.Credential.RoundTrip
import CarCatalog.Proofs.Route.Redirects
import CarCatalog.Proofs.Screen.Pages
import CarCatalog.Proofs.Session.Access
import CarCatalog.Proofs.Session.Reload
import CarCatalog.Proofs.Session.Tabs
import CarCatalog.Proofs.Slot.Memory
import CarCatalog.Proofs.View.Parts
import CarCatalog.Proofs.View.Tree
import CarCatalog.Proofs.Wire.RoundTrip
import CarCatalog.Proofs.Session.Labels
import CarCatalog.Proofs.App.Paged
import CarCatalog.Proofs.Binary64
import CarCatalog.Proofs.Json.Numeral
import CarCatalog.Proofs.Credential.Subject
import CarCatalog.Proofs.Credential.Independence
import CarCatalog.Proofs.Credential.Expiry
import CarCatalog.Proofs.App.Breadcrumb
import CarCatalog.Proofs.Form
import CarCatalog.Proofs.Screen.Prefill
import CarCatalog.Proofs.Form.Demands
import CarCatalog.Proofs.App.Refusals
import CarCatalog.Proofs.App.SignIn
import CarCatalog.Proofs.App.Awaited
import CarCatalog.Proofs.App.Failures
import CarCatalog.Proofs.Text.Percent
import CarCatalog.Proofs.Api.Url
import CarCatalog.Proofs.Api.RoleRemoval
import CarCatalog.Proofs.Api.Parameters
import CarCatalog.Proofs.Paging.Moves
import CarCatalog.Proofs.Form.UserUpdate
import CarCatalog.Proofs.Paging.Exact
import CarCatalog.Proofs.Slot.Registers
