/-!
# Port addresses

The engine is told the two ends of a connection by their addresses. An address is put together from
ids that the engine issued, and never taken apart again; so that it can be told where one id ends
and the next begins, the ids of a bus or module address hold no separator.
-/

namespace Patchbay

/-- The characters that separate the parts of an address. -/
def addressSeparators : List Char := [':', '?', '<', '>']

/-- Whether an id can be a part of a bus or module address. -/
def isOpaque (id : String) : Bool := id.toList.all fun c => !addressSeparators.contains c

/-- Where a connection can start or end. -/
inductive PortAddress where
  /-- A physical port, by its bare id. -/
  | main (portId : String)
  | bus (busId portId : String)
  | moduleInput (busId moduleId portId : String)
  | moduleOutput (busId moduleId portId : String)
deriving DecidableEq, Repr

def PortAddress.text : PortAddress → String
  | .main p => p
  | .bus b p => "/" ++ b ++ ":" ++ p
  | .moduleInput b m p => "/" ++ b ++ "?" ++ m ++ "<" ++ p
  | .moduleOutput b m p => "/" ++ b ++ "?" ++ m ++ ">" ++ p

end Patchbay
