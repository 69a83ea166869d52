import Provisioning.Json.Decode

/-!
Resource SKUs: what a size of virtual machine offers, everywhere and in single zones.
-/

namespace Provisioning.Azure

structure Capability where
  name : String
  value : String
  deriving DecidableEq, Repr

namespace Capability

def codec : Codec Capability :=
  Record.codec "Capability"
    (.cons (.required "name" .string) <| .cons (.required "value" .string) .nil)
    (fun c => (c.name, c.value, ())) (fun (name, value, ()) => ⟨name, value⟩)

end Capability

/-- Capabilities that hold in some zones only. -/
structure ZoneDetails where
  names : List String
  capabilities : List Capability
  deriving DecidableEq, Repr

namespace ZoneDetails

def codec : Codec ZoneDetails :=
  Record.codec "ZoneDetails"
    (.cons (.defaulted "name" (.list .string) []) <|
      .cons (.defaulted "capabilities" (.list Capability.codec) []) .nil)
    (fun d => (d.names, d.capabilities, ()))
    (fun (names, capabilities, ()) => ⟨names, capabilities⟩)

end ZoneDetails

structure LocationInfo where
  location : Option String
  zones : List String
  zoneDetails : List ZoneDetails
  deriving DecidableEq, Repr

namespace LocationInfo

def codec : Codec LocationInfo :=
  Record.codec "ResourceSkuLocationInfo"
    (.cons (.nullable "location" .string) <|
      .cons (.defaulted "zones" (.list .string) []) <|
      .cons (.defaulted "zoneDetails" (.list ZoneDetails.codec) []) .nil)
    (fun i => (i.location, i.zones, i.zoneDetails, ()))
    (fun (location, zones, details, ()) => ⟨location, zones, details⟩)

end LocationInfo

structure ResourceSku where
  name : Option String
  resourceType : Option String
  locations : List String
  locationInfo : List LocationInfo
  capabilities : Option (List Capability)
  deriving DecidableEq, Repr

namespace ResourceSku

def codec : Codec ResourceSku :=
  Record.codec "ResourceSku"
    (.cons (.optional "name" .string) <|
      .cons (.optional "resourceType" .string) <|
      .cons (.defaulted "locations" (.list .string) []) <|
      .cons (.defaulted "locationInfo" (.list LocationInfo.codec) []) <|
      .cons (.optional "capabilities" (.list Capability.codec)) .nil)
    (fun s => (s.name, s.resourceType, s.locations, s.locationInfo, s.capabilities, ()))
    (fun (name, kind, locations, info, capabilities, ()) =>
      ⟨name, kind, locations, info, capabilities⟩)

end ResourceSku

end Provisioning.Azure
