import PersonalAssistant.Gateway.Exclusive
import PersonalAssistant.Gateway.Frame
import PersonalAssistant.Mail.Dispatch
import PersonalAssistant.Mail.Honesty
import PersonalAssistant.Mail.DotStuffing
import PersonalAssistant.Extensions.LostAnswer
import PersonalAssistant.Extensions.Correlation
import PersonalAssistant.Browser.Receipt
import PersonalAssistant.Browser.Pinned
import PersonalAssistant.Browser.Alone
import PersonalAssistant.Browser.WriteGate
import PersonalAssistant.Extensions.Lockfile
import PersonalAssistant.Events.Delivery
import PersonalAssistant.Scheduling.Blocking
import PersonalAssistant.Lifecycle.Restart
import PersonalAssistant.Approvals.Settlement
import PersonalAssistant.Extensions.Namespace
import PersonalAssistant.Events.Stream
import PersonalAssistant.Recovery.Freeze
import PersonalAssistant.Extensions.HostRoutes
import PersonalAssistant.Extensions.Staging
import PersonalAssistant.Browser.Signals
import PersonalAssistant.Browser.Refill
import PersonalAssistant.Agent.Workflows
