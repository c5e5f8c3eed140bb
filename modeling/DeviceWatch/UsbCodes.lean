/-!
# Assigned codes

Names of the device classes and of a few vendors.
-/

namespace DeviceWatch.UsbCodes

/-- The class of a device whose interfaces tell their classes themselves. -/
def perInterface : UInt8 := 0x00

/-- The classes that have a name. -/
def classNames : List (UInt8 × String) :=
  [ (0x00, "per-interface"), (0x01, "audio"), (0x02, "communications"), (0x03, "HID"),
    (0x05, "physical"), (0x06, "image"), (0x07, "printer"), (0x08, "mass storage"),
    (0x09, "hub"), (0x0A, "CDC data"), (0x0B, "smart card"), (0x0E, "video"),
    (0xE0, "wireless"), (0xEF, "miscellaneous"), (0xFE, "application specific"),
    (0xFF, "vendor specific") ]

/-- The vendors that have a name. -/
def vendorNames : List (UInt16 × String) :=
  [ (0x0403, "FTDI"), (0x10C4, "Silicon Labs"), (0x1A86, "WCH"), (0x067B, "Prolific"),
    (0x1209, "pid.codes") ]

/-- The name of a class. -/
def className (code : UInt8) : String :=
  (classNames.lookup code).getD "unknown"

/-- The name of a vendor, if it is known. -/
def vendorName? (code : UInt16) : Option String :=
  vendorNames.lookup code

end DeviceWatch.UsbCodes
