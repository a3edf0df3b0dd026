import Nlboot.Parity.SigningPayload
import Nlboot.Reference.Cli
import Nlboot.Reference.KeyLifecycle
import Nlboot.Reference.Refusals
import Nlboot.Reference.PlannerClock
import Nlboot.Reference.MenuGrammar
import Nlboot.Reference.ClaimSchema
import Nlboot.Reference.Possession
import Nlboot.Client.TwoPhase
import Nlboot.Client.Confinement
import Nlboot.Client.CanonicalMap
import Nlboot.Client.Refusal
import Nlboot.Client.DryRun
import Nlboot.Client.CacheCheck
import Nlboot.Client.CacheNames
import Nlboot.Client.Custody
import Nlboot.Parity.TokenPlan
import Nlboot.Parity.KeySelection
import Nlboot.Parity.PlanHop
import Nlboot.Parity.RegistryTokens
import Nlboot.Reference.SignedPart
import Nlboot.Reference.Statements
import Nlboot.Reference.DeviceKeys
import Nlboot.Tools.SbomFile
