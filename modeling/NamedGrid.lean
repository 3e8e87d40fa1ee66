import NamedGrid.Main
import NamedGrid.Proofs.Contributions
import NamedGrid.Proofs.Keywords
import NamedGrid.Proofs.Occurrences
import NamedGrid.Proofs.Rebuilds
import NamedGrid.Proofs.Shorthand
import NamedGrid.Proofs.SharedNames
import NamedGrid.Proofs.SheetRuns
import NamedGrid.Proofs.LookUps
import NamedGrid.Proofs.Listings
import NamedGrid.Proofs.Faults
import NamedGrid.Proofs.Failures
import NamedGrid.Proofs.Independence
import NamedGrid.Proofs.Selectors
import NamedGrid.Proofs.Announcements
import NamedGrid.Proofs.Spellings
import NamedGrid.Proofs.RegistrationOrder
import NamedGrid.Proofs.Precedence
import NamedGrid.Proofs.JoinedMarkup
import NamedGrid.Proofs.IdentifierTokens
import NamedGrid.Proofs.Templates
import NamedGrid.Proofs.ConfigFailures
import NamedGrid.Proofs.BracketedNames
import NamedGrid.Proofs.SheetAnswers
import NamedGrid.Proofs.Rediscovery
import NamedGrid.Proofs.LocalPlugins
import NamedGrid.Proofs.FailedRegistrations
import NamedGrid.Proofs.NearestConfig
import NamedGrid.Proofs.Escapes
