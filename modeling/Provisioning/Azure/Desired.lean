import Provisioning.Azure.Config
import Provisioning.Azure.Resource.Network

/-!
The resources that a machine's configuration asks for. All of them carry the tag of the machine.
-/

namespace Provisioning.Azure.Desired

/-- The price tier of public addresses; networks of both families need the standard one. -/
def addressTier (dualStack : Bool) : AddressTier := ⟨if dualStack then "Standard" else "Basic"⟩

/-- A public address. -/
def publicIp (c : Config) (uid version : String) (dualStack : Bool) : PublicIpAddress where
  id := none
  name := none
  location := some c.location
  tags := Naming.tags c.tags uid
  tier := some (addressTier dualStack)
  properties :=
    { PublicIpProperties.empty with
      allocationMethod := some "Static"
      addressVersion := some version }

/-- The subnet of the machine's network interface. -/
def subnet (c : Config) : SubResource :=
  .ofId (Naming.subnetId c.subscriptionId c.vnetResourceGroup c.vnetName c.subnetName)

/-- One address of the network interface. -/
def ipConfiguration (c : Config) (name version : String) (publicIp : Option String)
    (primary : Bool) : IpConfiguration where
  id := none
  name := some name
  properties :=
    { subnet := some (subnet c)
      allocationMethod := some "Dynamic"
      privateAddress := none
      addressVersion := some version
      publicAddress := publicIp.map .ofId
      primary := some primary }

/-- The network interface, with a second address if the network has both families. -/
def nic (c : Config) (uid : String) (publicIp publicIpv6 : Option String) (dualStack : Bool) :
    NetworkInterface where
  id := none
  name := none
  location := some c.location
  tags := Naming.tags c.tags uid
  properties :=
    { ipConfigurations :=
        ipConfiguration c "ip-config-1" ipv4 publicIp true ::
          if dualStack then [ipConfiguration c "ip-config-2" ipv6 publicIpv6 false] else []
      networkSecurityGroup :=
        if c.securityGroupName.isEmpty then none
        else some (.ofId
          (Naming.securityGroupId c.subscriptionId c.resourceGroup c.securityGroupName))
      provisioningState := none }

/-- The login of the machine: one user with one key and no password. -/
def osProfile (os : OperatingSystem) (name key userdata : String) : OsProfile where
  computerName := name
  adminUsername := Config.adminUsername os
  customData := some (Config.encodeCustomData userdata)
  linuxConfiguration := some
    { disablePasswordAuthentication := true
      ssh := ⟨[⟨s!"/home/{Config.adminUsername os}/.ssh/authorized_keys", key⟩]⟩ }

/-- The virtual machine on a network interface. -/
def vm (c : Config) (os : OperatingSystem) (storage : StorageProfile)
    (name uid nicId key userdata : String) : VirtualMachine where
  id := none
  name := none
  location := some c.location
  tags := Naming.tags c.tags uid
  plan := c.plan os
  zones := c.zones
  properties :=
    { hardwareProfile := some ⟨c.vmSize⟩
      storageProfile := some storage
      osProfile := some (osProfile os name key userdata)
      networkProfile := some ⟨[⟨some nicId, some ⟨true⟩⟩]⟩
      availabilitySet := c.availabilitySetId.map .ofId
      provisioningState := none
      vmId := none }

end Provisioning.Azure.Desired
