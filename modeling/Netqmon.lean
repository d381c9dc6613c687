import Netqmon.Agent.AliasRecords
import Netqmon.Agent.Conservation
import Netqmon.Agent.Executor.Acknowledge
import Netqmon.Agent.Executor.Ordering
import Netqmon.Agent.FlowVerdict.Ownership
import Netqmon.Agent.Priority.Agreement
import Netqmon.Agent.Priority.Slots
import Netqmon.Agent.Priority.Startup
import Netqmon.Agent.Priority.Transitions
import Netqmon.Agent.Receiver.EndpointLease
import Netqmon.Agent.Receiver.FailedCommands
import Netqmon.Agent.Receiver.Precedence
import Netqmon.Bpf.Budget
import Netqmon.Bpf.Enforcement
import Netqmon.Bpf.QosPriority
import Netqmon.Bpf.VerdictRace
import Netqmon.Collector.License
import Netqmon.Collector.Maintenance
import Netqmon.Collector.Policy.AuditLog
import Netqmon.Collector.Policy.FlowCommands
import Netqmon.Collector.Policy.Overlap
import Netqmon.Collector.Policy.Reconnect
import Netqmon.Collector.Policy.Schedules
import Netqmon.ExactlyOnce
import Netqmon.Protocol.Frames
import Netqmon.Storage.NonNegative
import Netqmon.Storage.Progress
import Netqmon.Storage.SessionTotals
import Netqmon.Collector.EndingIndex
import Netqmon.Agent.FlowVerdict.Resets
import Netqmon.Agent.DnsAnswers
import Netqmon.Collector.MacPrefixes
import Netqmon.Agent.RetryBuffer
import Netqmon.Collector.Policy.Capacity
