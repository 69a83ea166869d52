import Provisioning.Azure.Error
import Provisioning.Azure.Resource.Basic
import Provisioning.ConfigVar

/-!
The provider's section of a machine's configuration as it is written, variables not yet resolved.
Members that are not known are refused.
-/

namespace Provisioning.Azure

/-- The purchase plan of an image as written. -/
structure ImagePlan where
  name : String
  publisher : String
  product : String
  deriving DecidableEq, Repr

namespace ImagePlan

def codec : Codec ImagePlan :=
  Record.codec "ImagePlan"
    (.cons (.defaulted "name" .string "") <|
      .cons (.defaulted "publisher" .string "") <|
      .cons (.defaulted "product" .string "") .nil)
    (fun p => (p.name, p.publisher, p.product, ()))
    (fun (name, publisher, product, ()) => ⟨name, publisher, product⟩)

end ImagePlan

/-- Coordinates of an image on the marketplace as written. -/
structure ImageCoordinates where
  publisher : String
  offer : String
  sku : String
  version : String
  deriving DecidableEq, Repr

namespace ImageCoordinates

def codec : Codec ImageCoordinates :=
  Record.codec "ImageReference"
    (.cons (.defaulted "publisher" .string "") <|
      .cons (.defaulted "offer" .string "") <|
      .cons (.defaulted "sku" .string "") <|
      .cons (.defaulted "version" .string "") .nil)
    (fun r => (r.publisher, r.offer, r.sku, r.version, ()))
    (fun (publisher, offer, sku, version, ()) => ⟨publisher, offer, sku, version⟩)

end ImageCoordinates

structure Settings where
  subscriptionId : StringVar
  tenantId : StringVar
  clientId : StringVar
  clientSecret : StringVar
  location : StringVar
  resourceGroup : StringVar
  vnetResourceGroup : StringVar
  vmSize : StringVar
  vnetName : StringVar
  subnetName : StringVar
  loadBalancerSku : StringVar
  routeTableName : StringVar
  availabilitySet : StringVar
  assignAvailabilitySet : Option Bool
  securityGroupName : StringVar
  imageId : StringVar
  imagePlan : Option ImagePlan
  imageReference : Option ImageCoordinates
  zones : List String
  tags : Tags
  osDiskSize : Int32
  osDiskSku : Option String
  dataDiskSize : Int32
  dataDiskSku : Option String
  assignPublicIp : BoolVar
  deriving DecidableEq

namespace Settings

/-- A variable that may be left out. -/
def variableField (name : String) : Field StringVar := .defaulted name StringVar.codec .unset

def codec : Codec Settings :=
  Record.strictCodec "RawConfig"
    (.cons (variableField "subscriptionID") <|
      .cons (variableField "tenantID") <|
      .cons (variableField "clientID") <|
      .cons (variableField "clientSecret") <|
      .cons (variableField "location") <|
      .cons (variableField "resourceGroup") <|
      .cons (variableField "vnetResourceGroup") <|
      .cons (variableField "vmSize") <|
      .cons (variableField "vnetName") <|
      .cons (variableField "subnetName") <|
      .cons (variableField "loadBalancerSku") <|
      .cons (variableField "routeTableName") <|
      .cons (variableField "availabilitySet") <|
      .cons (.optional "assignAvailabilitySet" .bool) <|
      .cons (variableField "securityGroupName") <|
      .cons (variableField "imageID") <|
      .cons (.optional "imagePlan" ImagePlan.codec) <|
      .cons (.optional "imageReference" ImageCoordinates.codec) <|
      .cons (.defaulted "zones" (.list .string) []) <|
      .cons tagsField <|
      .cons (.defaulted "osDiskSize" .int32 0) <|
      .cons (textField "osDiskSKU") <|
      .cons (.defaulted "dataDiskSize" .int32 0) <|
      .cons (textField "dataDiskSKU") <|
      .cons (.defaulted "assignPublicIP" BoolVar.codec .unset) .nil)
    (fun s => (s.subscriptionId, s.tenantId, s.clientId, s.clientSecret, s.location,
      s.resourceGroup, s.vnetResourceGroup, s.vmSize, s.vnetName, s.subnetName,
      s.loadBalancerSku, s.routeTableName, s.availabilitySet, s.assignAvailabilitySet,
      s.securityGroupName, s.imageId, s.imagePlan, s.imageReference, s.zones, s.tags,
      s.osDiskSize, s.osDiskSku, s.dataDiskSize, s.dataDiskSku, s.assignPublicIp, ()))
    (fun (subscriptionId, tenantId, clientId, clientSecret, location, resourceGroup,
        vnetResourceGroup, vmSize, vnetName, subnetName, loadBalancerSku, routeTableName,
        availabilitySet, assignAvailabilitySet, securityGroupName, imageId, imagePlan,
        imageReference, zones, tags, osDiskSize, osDiskSku, dataDiskSize, dataDiskSku,
        assignPublicIp, ()) =>
      { subscriptionId, tenantId, clientId, clientSecret, location, resourceGroup,
        vnetResourceGroup, vmSize, vnetName, subnetName, loadBalancerSku, routeTableName,
        availabilitySet, assignAvailabilitySet, securityGroupName, imageId, imagePlan,
        imageReference, zones, tags, osDiskSize, osDiskSku, dataDiskSize, dataDiskSku,
        assignPublicIp })

/-- Reads the section. -/
def ofJson (value : Json) : Except AzureError Settings :=
  match codec.decode value with
  | .ok settings => .ok settings
  | .error fault => .error (.invalidConfig ("failed to parse cloudProviderSpec: " ++ fault.message))

end Settings

end Provisioning.Azure
