import Provisioning.Azure.Config
import Provisioning.Json.Printer

/-!
The configuration file of the cloud controller, written as JSON over many lines.
-/

namespace Provisioning.Azure

structure ControllerConfig where
  cloud : String
  tenantId : String
  subscriptionId : String
  aadClientId : String
  aadClientSecret : String
  resourceGroup : String
  location : String
  vnetName : String
  subnetName : String
  routeTableName : String
  securityGroupName : String
  primaryAvailabilitySetName : String
  vnetResourceGroup : String
  useInstanceMetadata : Bool
  loadBalancerSku : String
  deriving DecidableEq, Repr

namespace ControllerConfig

def publicCloud : String := "AZUREPUBLICCLOUD"

def codec : Codec ControllerConfig :=
  Record.codec "AzureCloudConfig"
    (.cons (.required "cloud" .string) <|
      .cons (.required "tenantId" .string) <|
      .cons (.required "subscriptionId" .string) <|
      .cons (.required "aadClientId" .string) <|
      .cons (.required "aadClientSecret" .string) <|
      .cons (.required "resourceGroup" .string) <|
      .cons (.required "location" .string) <|
      .cons (.required "vnetName" .string) <|
      .cons (.required "subnetName" .string) <|
      .cons (.required "routeTableName" .string) <|
      .cons (.required "securityGroupName" .string) <|
      .cons (.required "primaryAvailabilitySetName" .string) <|
      .cons (.required "vnetResourceGroup" .string) <|
      .cons (.required "useInstanceMetadata" .bool) <|
      .cons (.required "loadBalancerSku" .string) .nil)
    (fun c => (c.cloud, c.tenantId, c.subscriptionId, c.aadClientId, c.aadClientSecret,
      c.resourceGroup, c.location, c.vnetName, c.subnetName, c.routeTableName,
      c.securityGroupName, c.primaryAvailabilitySetName, c.vnetResourceGroup,
      c.useInstanceMetadata, c.loadBalancerSku, ()))
    (fun (cloud, tenantId, subscriptionId, aadClientId, aadClientSecret, resourceGroup, location,
        vnetName, subnetName, routeTableName, securityGroupName, primaryAvailabilitySetName,
        vnetResourceGroup, useInstanceMetadata, loadBalancerSku, ()) =>
      { cloud, tenantId, subscriptionId, aadClientId, aadClientSecret, resourceGroup, location,
        vnetName, subnetName, routeTableName, securityGroupName, primaryAvailabilitySetName,
        vnetResourceGroup, useInstanceMetadata, loadBalancerSku })

/-- The text of the file. -/
def render (c : ControllerConfig) : String := (codec.encode c).pretty

/-- The controller's configuration for the cluster of a machine. -/
def ofConfig (c : Config) : ControllerConfig where
  cloud := publicCloud
  tenantId := c.tenantId
  subscriptionId := c.subscriptionId
  aadClientId := c.clientId
  aadClientSecret := c.clientSecret
  resourceGroup := c.resourceGroup
  location := c.location
  vnetName := c.vnetName
  subnetName := c.subnetName
  routeTableName := c.routeTableName
  securityGroupName := c.securityGroupName
  primaryAvailabilitySetName := c.effectiveAvailabilitySet.getD ""
  vnetResourceGroup := c.vnetResourceGroup
  useInstanceMetadata := true
  loadBalancerSku := c.loadBalancerSku

end ControllerConfig

end Provisioning.Azure
