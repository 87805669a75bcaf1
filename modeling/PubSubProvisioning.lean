import PubSubProvisioning.Main
import PubSubProvisioning.Rehearsal
import PubSubProvisioning.Steps
import PubSubProvisioning.Proofs.AcceptedProjects
import PubSubProvisioning.Proofs.DeadLetterSafety
import PubSubProvisioning.Proofs.DeadLetterUrl
import PubSubProvisioning.Proofs.ErrorAttribution
import PubSubProvisioning.Proofs.NameClashes
import PubSubProvisioning.Proofs.ProjectValue
import PubSubProvisioning.Proofs.ResourceUrl
import PubSubProvisioning.Proofs.RestRefinement
import PubSubProvisioning.Proofs.Sessions
import PubSubProvisioning.Proofs.Accounting
import PubSubProvisioning.Proofs.CommandEnding
import PubSubProvisioning.Proofs.Concurring
import PubSubProvisioning.Proofs.Reruns
import PubSubProvisioning.Proofs.ReplyContent
import PubSubProvisioning.Proofs.TokenGrammar
import PubSubProvisioning.Proofs.TokenWriting
import PubSubProvisioning.Proofs.DebugFlag
import PubSubProvisioning.Proofs.AccessToken
import PubSubProvisioning.Proofs.RepeatedTopics
import PubSubProvisioning.Proofs.ReviewOutcome
import PubSubProvisioning.Proofs.Confinement
import PubSubProvisioning.Proofs.LocalEndpoint
import PubSubProvisioning.Proofs.Enumeration
import PubSubProvisioning.Proofs.MalformedMessages
import PubSubProvisioning.Proofs.ErrorReplies
import PubSubProvisioning.Proofs.RequestBodies
import PubSubProvisioning.Proofs.Opening
import PubSubProvisioning.Proofs.Following
import PubSubProvisioning.Proofs.PlanRefinement
