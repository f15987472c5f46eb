/-!
# Options of an interpreter
-/
namespace Statechart

/-- The limits an interpreter works under. -/
structure Options where
  /-- Eventless transitions followed within one step. -/
  maxMicrosteps : UInt64 := 32
  /-- Transition records kept. -/
  historyLimit : UInt64 := 128
  deriving DecidableEq, Repr

namespace Options

/-- The same options with another limit on eventless transitions. -/
def withMaxMicrosteps (options : Options) (limit : UInt64) : Options :=
  { options with maxMicrosteps := limit }

/-- The same options with another limit on records. -/
def withHistoryLimit (options : Options) (limit : UInt64) : Options :=
  { options with historyLimit := limit }

end Options

end Statechart
