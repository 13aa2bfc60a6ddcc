import Wheelhouse.Digest.Sha256
import Wheelhouse.Disk.Operations

set_option autoImplicit false

namespace Wheelhouse.Disk

def digest (d : Disk) (p : Path) : Except DiskError String := do
  return Sha256.hexDigest (← d.readFile p)

end Wheelhouse.Disk
