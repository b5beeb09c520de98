import NbdAttach.Path
import NbdAttach.Text.Hex

/-!
# Endpoints

Server and client of one device meet at a socket whose name is made from the identity of the
device, so every device has a socket of its own and finds it again.
-/

namespace NbdAttach

/-- The identity of a device: the file system that its node is on, and its number there. -/
structure DeviceIdentity where
  device : UInt64
  inode : UInt64
  /-- How many bytes wide the two numbers are on this host. -/
  deviceBytes : Nat := 8
  inodeBytes : Nat := 8
deriving DecidableEq, Repr, Inhabited

namespace DeviceIdentity

/-- The name of the device's socket, as characters: two hexadecimal numerals at their full widths,
with an underscore between. -/
def nameChars (id : DeviceIdentity) : List Char :=
  Text.hex (2 * id.deviceBytes) id.device.toNat ++
    '_' :: Text.hex (2 * id.inodeBytes) id.inode.toNat

/-- The name of the device's socket. -/
def name (id : DeviceIdentity) : String :=
  String.ofList id.nameChars

end DeviceIdentity

/-- The socket at which server and client of one device meet. -/
structure Endpoint where
  path : Path
deriving DecidableEq, Repr, Inhabited

namespace Endpoint

/-- The endpoint of a device, in the directory of the sockets. -/
def forDevice (socketDir : Path) (id : DeviceIdentity) : Endpoint :=
  ⟨socketDir.join id.name⟩

end Endpoint

end NbdAttach
