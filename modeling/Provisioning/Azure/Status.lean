import Provisioning.Azure.Resource.Compute
import Provisioning.Instance

/-!
The status of an instance by its view. A settled machine reports its provisioning state and then
its power state; a machine that reports a single state is still being made or taken down.
-/

namespace Provisioning.Azure

namespace InstanceView

/-- The status that a lone provisioning state stands for. -/
def provisioningStatus : Option String → InstanceStatus
  | some "ProvisioningState/deleting" => .deleting
  | some "ProvisioningState/creating" => .creating
  | _ => .unknown

/-- The status that a power state stands for. -/
def powerStatus : Option String → InstanceStatus
  | some "PowerState/running" => .running
  | some "PowerState/starting" => .creating
  | _ => .unknown

def status (view : InstanceView) : InstanceStatus :=
  match view.statuses with
  | none | some [] => .unknown
  | some [only] => provisioningStatus only.code
  | some (_ :: power :: _) => powerStatus power.code

end InstanceView

end Provisioning.Azure
