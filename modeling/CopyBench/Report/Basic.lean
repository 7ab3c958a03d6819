import CopyBench.Bootstrap.Instance
import CopyBench.Report.Product
/-!
# Device reports

What the user is told about a physical device, in a detailed and in a short
form, and the two listings of all devices of a platform.
-/

namespace CopyBench

/-- What there is to tell about a physical device. -/
structure DeviceReport where
  name : String
  vendorId : UInt32
  deviceId : UInt32
  deviceType : Int
  driverVersion : UInt32
  apiVersion : UInt32
  driverName : String
  driverInfo : String
deriving DecidableEq, Repr

namespace DeviceReport

/-- The report on a physical device. -/
def ofDevice (device : PhysicalDevice) : DeviceReport where
  name := device.name.text
  vendorId := device.vendorId
  deviceId := device.deviceId
  deviceType := device.deviceType
  driverVersion := device.driverVersion
  apiVersion := device.apiVersion
  driverName := device.driverName.text
  driverInfo := device.driverInfo.text

/-- The vendor whose products are recognised. -/
def intelVendor : UInt32 := 0x8086

/-- Whether the products of the device's vendor are recognised. -/
def isIntel (report : DeviceReport) : Bool := report.vendorId = intelVendor

/-- The name of a device type. -/
def typeName (deviceType : Int) : String :=
  match deviceType with
  | 0 => "Other"
  | 1 => "Integrated GPU"
  | 2 => "Discrete GPU"
  | 3 => "Virtual GPU"
  | 4 => "CPU"
  | _ => "Unknown"

/-- A packed driver version as eight bits, eight bits and sixteen bits. -/
def driverVersionText (version : UInt32) : String :=
  let v := version.toNat
  toString (v >>> 24) ++ "." ++ toString ((v >>> 16) % 0x100) ++ "." ++ toString (v % 0x10000)

/-- A packed interface version as seven bits, ten bits and twelve bits, below
three bits that are left out. -/
def apiVersionText (version : UInt32) : String :=
  let v := version.toNat
  toString ((v >>> 22) % 0x80) ++ "." ++ toString ((v >>> 12) % 0x400) ++ "." ++
    toString (v % 0x1000)

/-- The product family of the device. -/
def product (report : DeviceReport) : Product := Product.ofDeviceId report.deviceId

/-- The detailed form. -/
def detailed (report : DeviceReport) : String :=
  "\tDevice: " ++ report.name ++ "\n" ++
  "\t\tvendorId:      " ++ Hex.literal report.vendorId.toNat ++ "\n" ++
  "\t\tdeviceId:      " ++ Hex.literal report.deviceId.toNat ++
    " (intelProduct=" ++ report.product.name ++
    ", intelGen=" ++ report.product.generation.name ++ ")\n" ++
  "\t\tdeviceType:    " ++ typeName report.deviceType ++ "\n" ++
  "\t\tdriverName:    " ++ report.driverName ++ "\n" ++
  "\t\tdriverInfo:    " ++ report.driverInfo ++ "\n" ++
  "\t\tdriverVersion: " ++ driverVersionText report.driverVersion ++ "\n"

/-- The short form, with the index by which the device is selected. -/
def summary (index : Nat) (report : DeviceReport) : String :=
  "Device Type:    " ++ typeName report.deviceType ++ "\n" ++
  "Device Name:    " ++ report.name ++ "\n" ++
  "Vendor ID:      " ++ Hex.literal report.vendorId.toNat ++ "\n" ++
  "Device ID:      " ++ Hex.literal report.deviceId.toNat ++ "\n" ++
  "Driver Version: " ++ Hex.literal report.driverVersion.toNat ++
    " (" ++ driverVersionText report.driverVersion ++ ")\n" ++
  "VK API Version: " ++ apiVersionText report.apiVersion ++ "\n" ++
  (if report.isIntel then
    "Intel Product:  " ++ report.product.name ++ "\n" ++
    "Intel Gen:      " ++ report.product.generation.name ++ "\n"
  else "") ++
  "Note: select this device with --vk-physical-device-index=" ++ toString index ++ "\n"

/-- The reports on all devices of a platform. The instance they are read
through is destroyed in any case. -/
def queryAll (platform : Platform) : Action Machine (List DeviceReport) := do
  let _ ← Instance.create platform (Configuration.disabled {})
  (Platform.enumerate .enumerateDevices).ensuring Instance.destroy
  pure (platform.devices.map ofDevice)

/-- Prints the detailed form of reports. -/
def printEach : List DeviceReport → Action Machine Unit
  | [] => pure ()
  | report :: rest => do
    print report.detailed
    printEach rest

/-- Prints the short form of reports, the first of which has number `index`. -/
def printSummaries : Nat → List DeviceReport → Action Machine Unit
  | _, [] => pure ()
  | index, report :: rest => do
    print (report.summary index ++ "\n")
    printSummaries (index + 1) rest

/-- Prints the detailed form of every device whose products are recognised. -/
def printDetailed (platform : Platform) : Action Machine Unit := do
  let reports ← queryAll platform
  printEach (reports.filter (·.isIntel))
  print "\n"

/-- Prints the short form of every device. -/
def printAvailable (platform : Platform) : Action Machine Unit := do
  let reports ← queryAll platform
  print ("Available Vulkan Physical Devices: " ++ toString reports.length ++ "\n")
  printSummaries 0 reports

end DeviceReport

end CopyBench
