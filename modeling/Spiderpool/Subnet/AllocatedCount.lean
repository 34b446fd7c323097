/-
# The count of the addresses in the entries

`status.allocatedIPCount` of a subnet is written by `preAllocateIPsFromSubnet`, which counts the
addresses of all entries, and by `syncControlledIPPoolIPs`, which counts while it makes them. The
latter counts what it keeps for auto-created pools first and what it makes for the other pools then;
where one of these has the name of an entry of the first, the addresses of both are counted.
-/

import Spiderpool.Base.Runs
import Spiderpool.Subnet.FixedPoint

namespace Spiderpool

namespace AllocatedCount

/-- What writes the status: a call for an auto-created pool, and a sync with what it finds, after
whatever has become of the pools. -/
inductive Event where
  | preAllocate (env : SubnetEnv) (pool : IPPool) (ipVersion : IPVersion) (desiredIPNum : ℤ)
      (podController : PodTopController)
  | sync (env : InformerEnv)

/-- One step. A write is refused if the subnet has changed since it was read. -/
inductive Step : SpiderSubnet → Event → SpiderSubnet → Prop
  | nothing {s : SpiderSubnet} {ev : Event} : Step s ev s
  | preAllocate {s : SpiderSubnet} {env : SubnetEnv} {pool : IPPool} {ipVersion : IPVersion}
      {desiredIPNum : ℤ} {c : PodTopController} {ips : List String} {written : Option SpiderSubnet}
      (h : preAllocateIPsFromSubnet env s pool ipVersion desiredIPNum c = .ok (ips, written)) :
      Step s (.preAllocate env pool ipVersion desiredIPNum c) (written.getD s)
  /-- No two pools that the lister knows have one name. -/
  | sync {s : SpiderSubnet} {env : InformerEnv} {written : Option SpiderSubnet}
      (hnames : ∀ l, env.ipPools = .ok l → (l.map IPPool.name).Nodup)
      (h : syncControlledIPPoolIPs env s = .ok written) :
      Step s (.sync env) (written.getD s)

section

variable {v : IPVersion}

end

/-! ### What is written -/

section

variable {subnet subnet' : SpiderSubnet}

end

end AllocatedCount

namespace Sample

open AllocatedCount

def plainEnv : SubnetEnv := ⟨.ok [], .stored _ _, .stored _ _, id, le_refl⟩

def emptyPool (name : String) : IPPool := { name := name, spec := { subnet := "10.0.0.0/24" } }

def countedApp : PodTopController :=
  ⟨Constant.appsV1, Constant.kindDeployment, "default", "web", "uid-web", .other⟩

def preAllocateTwo (poolName : String) (s : SpiderSubnet) :
    Result Err (List String × Option SpiderSubnet) :=
  preAllocateIPsFromSubnet plainEnv s (emptyPool poolName) Constant.ipv4 2 countedApp

end Sample
end Spiderpool
