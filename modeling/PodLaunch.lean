import PodLaunch.Main
import PodLaunch.Proofs.ArgumentLayout
import PodLaunch.Proofs.Command.Checking
import PodLaunch.Proofs.Command.Initializing
import PodLaunch.Proofs.Composition
import PodLaunch.Proofs.Coverage
import PodLaunch.Proofs.IdleValues
import PodLaunch.Proofs.LeftoverTokens
import PodLaunch.Proofs.Loading
import PodLaunch.Proofs.Manifest.Acceptance
import PodLaunch.Proofs.Manifest.TolerationOutcomes
import PodLaunch.Proofs.Manifest.UnreadFields
import PodLaunch.Proofs.MountPath
import PodLaunch.Proofs.NodeProfile.Declaration
import PodLaunch.Proofs.NodeProfile.Saving
import PodLaunch.Proofs.Normalization
import PodLaunch.Proofs.Rearrangement
import PodLaunch.Proofs.ViolationSet
