import Spiderpool.Coordinator.Effective
import Spiderpool.Coordinator.PodCIDR
import Spiderpool.Coordinator.RuleTable
import Spiderpool.Endpoint.Repeat
import Spiderpool.Endpoint.Slots
import Spiderpool.GC.Cleanup
import Spiderpool.GC.PodDatabase
import Spiderpool.GC.Recreated
import Spiderpool.GC.Replica
import Spiderpool.GC.TraceWorker
import Spiderpool.IP.Label
import Spiderpool.IPAM.AutoPoolAffinity
import Spiderpool.IPAM.Listed
import Spiderpool.IPAM.ParentMac
import Spiderpool.IPAM.PluginAdd
import Spiderpool.IPAM.StandardMode
import Spiderpool.IPAM.Wildcard
import Spiderpool.IPPool.Choice
import Spiderpool.IPPool.Ownership
import Spiderpool.IPPool.RoundTrip
import Spiderpool.IPPool.Status
import Spiderpool.IPPool.Unique
import Spiderpool.Multus.Ownership
import Spiderpool.NetworkResourcePlugin.Desired
import Spiderpool.NetworkResourcePlugin.Server
import Spiderpool.Networking.Detection
import Spiderpool.Networking.Mac
import Spiderpool.Networking.Route
import Spiderpool.PodManager.Slots
import Spiderpool.PodOwnerCache.Cache
import Spiderpool.Subnet.AppEvents
import Spiderpool.Subnet.AppNames
import Spiderpool.Subnet.Reconcile
import Spiderpool.Subnet.Within
