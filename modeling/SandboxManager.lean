import SandboxManager.Claw.Seccomp
import SandboxManager.Claw.SocketProtection
import SandboxManager.Claw.PolicyMounts
import SandboxManager.Claw.SocketPath
import SandboxManager.Claw.GateRuns
import SandboxManager.Claw.Answers
import SandboxManager.Claw.Receive
import SandboxManager.Policy.CleanByUser
import SandboxManager.Policy.RemoveFailure
import SandboxManager.Policy.EighthSlash
import SandboxManager.Policy.RequestVerdicts
import SandboxManager.Policy.Renewal
import SandboxManager.Policy.Replies
import SandboxManager.Policy.Restore
import SandboxManager.Policy.AddAnswers
import SandboxManager.Policy.UserOutcomes
import SandboxManager.Policy.Batches
import SandboxManager.Policy.PackageAgreement
import SandboxManager.Policy.Duplicates
import SandboxManager.Share.Isolation
import SandboxManager.Share.Lookup
import SandboxManager.Share.ShareFileInfo
import SandboxManager.Trie.Search
import SandboxManager.Trie.Verdict
import SandboxManager.Claw.PatternGrammar
import SandboxManager.Claw.Transmission
import SandboxManager.Claw.ActionConflicts
import SandboxManager.Claw.EventFormat
import SandboxManager.Policy.UserPaths
import SandboxManager.Policy.EventNumbers
import SandboxManager.Policy.DenyConfig
import SandboxManager.Share.ScopeBounds
import SandboxManager.Trie.CaseInheritance
import SandboxManager.LogMask
import SandboxManager.Claw.AppIdentifier
import SandboxManager.Claw.TxQueue
import SandboxManager.Claw.EventRecovery
import SandboxManager.Claw.JsonDepth
import SandboxManager.Claw.ConditionalRules
import SandboxManager.Claw.DecDelivery
import SandboxManager.Claw.MountLeaks
import SandboxManager.Claw.ServedPolicies
import SandboxManager.Claw.TemplateLoading
import SandboxManager.Claw.Program
