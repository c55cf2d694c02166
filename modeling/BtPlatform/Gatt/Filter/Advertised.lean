import BtPlatform.Gatt.Advertised
import BtPlatform.Gatt.Filter.Judged

/-!
# Filters on advertising data

Where the data survive the way to the scanner, a filter says of the record that arrives what
it says of the data.
-/

namespace Gatt

open List ScanFilter

/-- The record that the advertiser has in mind. -/
def AdvertiseData.toRecord (data : AdvertiseData) (name : List UInt8) : ScanRecord :=
  { ScanRecord.start [] with
    serviceUuids := data.serviceUuids
    serviceData := data.serviceData
    manufacturerSpecificData := data.manufacturerSpecificData
    deviceName := name }

end Gatt
