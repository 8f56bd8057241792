import Sprefence.Serial.Receive
import Sprefence.WebSource.Provenance

/-! The commands of the server on their way through the USB serial device to `web_source`. -/

namespace Sprefence.Cdcacm.System

open Runs
open Server (Command)

end Sprefence.Cdcacm.System
