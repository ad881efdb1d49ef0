import Headset.Json.Pretty
import Headset.Simulator.Session

/-!
# Summaries

What the simulator writes: the summary of a session as a document with its keys in order, the help,
and the wording of a misuse.
-/

namespace Headset.Simulator

def Summary.toJson (s : Summary) : Json :=
  let client := s.bench.link.client
  let count (n : UInt64) : Json := .ofNat n.toNat
  let updates (id : Nat) : Json := count (s.bench.updates[id]?.getD 0)
  Json.record [
    ("client", .record [("bytes", count client.bytes), ("frames", count client.frames),
      ("keyframes", count client.keyframes)]),
    ("controllers", .record [("left", updates 0), ("right", updates 1)]),
    ("driver", s.counters.toJson),
    ("host", .record [("poses", count s.bench.poses), ("vsyncs", count s.bench.vsyncs)]),
    ("latency", s.latency.toJson)]

/-- What the options are for. -/
def helpText : String :=
  "Run the Wavry VR driver against a simulated client\n\n" ++
  "Options:\n" ++
  "  -c, --config <CONFIG>          Driver config file (JSON)\n" ++
  "  -f, --frames <FRAMES>          Stop after the client has received this many frames\n" ++
  "      --refresh-hz <REFRESH_HZ>  Override the display refresh rate\n" ++
  "      --loss-at <LOSS_AT>        Report packet loss once this many frames have arrived\n" ++
  "  -h, --help                     Print help"

def Misuse.message : Misuse → String
  | .unknown argument => "error: unexpected argument '" ++ argument ++ "' found"
  | .missingValue => "error: a value is required but none was supplied"
  | .invalidValue value => "error: invalid value '" ++ value ++ "'"
  | .repeated => "error: the argument cannot be used multiple times"

end Headset.Simulator
