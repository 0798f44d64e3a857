import Patchbay.Number.Binary

/-!
# Modules

The processing modules that the engine can create. A type of module fixes the request that creates
one, its parameters in the order of that request, and the ports that the engine gives it.
-/

namespace Patchbay

/-- The types of modules that the engine can make. -/
inductive ModuleType where
  | oscillatorSine
  | oscillatorTriangle
  | oscillatorClock
  | envelopeFollower
  | utilsFloat
  | filterBandpass
  | delaySimple
deriving DecidableEq, Repr

namespace ModuleType

def all : List ModuleType :=
  [oscillatorSine, oscillatorTriangle, oscillatorClock, envelopeFollower, utilsFloat,
    filterBandpass, delaySimple]

/-- The type tag that the editor gives a module. -/
def tag : ModuleType → String
  | oscillatorSine => "oscillator/sine"
  | oscillatorTriangle => "oscillator/triangle"
  | oscillatorClock => "oscillator/clock"
  | envelopeFollower => "envelope/follower"
  | utilsFloat => "utils/float"
  | filterBandpass => "filter/bandpass"
  | delaySimple => "delay/simple"

/-- The name of the request that creates a module. -/
def operation : ModuleType → String
  | oscillatorSine => "add_modules_oscillator_sine"
  | oscillatorTriangle => "add_modules_oscillator_triangle"
  | oscillatorClock => "add_modules_oscillator_clock"
  | envelopeFollower => "add_modules_envelope_follower"
  | utilsFloat => "add_modules_utils_float"
  | filterBandpass => "add_modules_filter_bandpass"
  | delaySimple => "add_modules_delay_simple"

/-- The names of the parameters, in the order of the request. -/
def parameters : ModuleType → List String
  | oscillatorSine => ["frequency", "amplitude", "phase"]
  | oscillatorTriangle => ["frequency", "amplitude"]
  | oscillatorClock => ["frequency", "amplitude"]
  | envelopeFollower => ["attack", "decay", "scale"]
  | utilsFloat => ["value"]
  | filterBandpass => ["amplitude", "frequency", "q"]
  | delaySimple => ["amplitude", "time", "feedback"]

def inputNames : ModuleType → List String
  | oscillatorSine | oscillatorTriangle | oscillatorClock => ["frequency"]
  | utilsFloat => []
  | envelopeFollower | filterBandpass | delaySimple => ["in"]

def outputNames : ModuleType → List String
  | _ => ["out"]

def ofTag? (tag : String) : Option ModuleType := all.find? fun t => t.tag = tag

end ModuleType

/-- A module to create: its type, and a value for each parameter in order. -/
structure ModuleSpec where
  type : ModuleType
  values : List Single
deriving DecidableEq, Repr

namespace ModuleSpec

/-- The parameters with their values, in the order of the request. -/
def parameters (m : ModuleSpec) : List (String × Single) := m.type.parameters.zip m.values

end ModuleSpec

end Patchbay
