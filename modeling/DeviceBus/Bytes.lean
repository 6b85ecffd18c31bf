/-!
# Bytes

Bodies, messages and the contents of files are arrays of bytes.  Whether two of them are equal is decided
byte by byte, in the same way wherever they stand.
-/

namespace DeviceBus

-- preferred over whatever else decides it where more is imported
instance (priority := 1100) decidableEqByteArray : DecidableEq ByteArray := ByteArray.instDecidableEq

end DeviceBus
