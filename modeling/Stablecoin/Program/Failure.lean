import Stablecoin.Disk.Basic
import Stablecoin.Parameters.File
import Stablecoin.Replay.Prices
import Stablecoin.Run.Error

namespace Stablecoin

inductive Failure where
  | disk (fault : DiskFault)
  | parameterFile (path : String) (fault : ParameterFileFault)
  | prices (path : String) (fault : Replay.PriceFault)
  | run (error : RunError Float)
  /-- The parameters of the run cannot be written down. -/
  | unwritable (fault : Parameters.TomlFault)
  /-- Some of the runs of a batch have failed. -/
  | batch (failed runs : Nat)
deriving Repr

namespace Failure

def message : Failure → String
  | disk fault => fault.message
  | parameterFile _ .notText => DiskFault.notText.message
  | parameterFile path .notJson => path ++ " is not a bundle of parameters in JSON"
  | parameterFile path .notToml => path ++ " is not a bundle of parameters in TOML"
  | parameterFile _ (.invalid fault) => configurationText fault.message
  | prices path .malformed => Replay.PriceFault.malformed.message path
  | prices path fault => configurationText (fault.message path)
  | run error => error.message
  | unwritable fault => configurationText fault.message
  | batch failed runs => toString failed ++ " of " ++ toString runs ++ " runs aborted"

end Failure
end Stablecoin
