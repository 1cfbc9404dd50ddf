import TunnelOptions.Disk
import TunnelOptions.Log.Directive
import TunnelOptions.OptionFault
import TunnelOptions.Tls.Selection

/-!
# Failures

Everything that can go wrong in the library is one of four things: a file, an option, a TLS
connection or a settings file. Each of them has its faults where it is described itself; here they
are put together, and each is given the words in front of it that say which of the four it is.

Faults are values, and their wording is a function of them. What a caller tells apart, and what is
proved, is the fault; two faults that happen to be worded alike stay different.

* `SettingsFault`: what is wrong with a settings file or a log it asks for.
* `Failure`: any failure of the library, with its wording in `Failure.message`.
-/

set_option autoImplicit false

namespace TunnelOptions

/-- What is wrong with a settings file or a log it asks for. A file that cannot be read or written
brings the fault of the file with it, and a level that is no filter that of the directive. -/
inductive SettingsFault where
  | unreadable (fault : FileFault)
  /-- The text is no settings file. -/
  | malformed
  | unwritable (fault : FileFault)
  | badLogLevel (fault : Log.DirectiveFault)
  | unknownLogFormat (name : String)
  /-- There is a log already. -/
  | alreadyLogging
  deriving DecidableEq

/-- The wording of a fault. -/
def SettingsFault.message : SettingsFault → String
  | .unreadable fault => String.join ["Failed to read config: ", fault.message]
  | .malformed => "Failed to parse config"
  | .unwritable fault => String.join ["Failed to write config: ", fault.message]
  | .badLogLevel fault => String.join ["Invalid log level: ", fault.message]
  | .unknownLogFormat name => String.join ["Unknown log format: ", name]
  | .alreadyLogging =>
    "Failed to install logger: a global default trace dispatcher has already been set"

/-- Any failure of the library. A caller that wants to know more than that something failed looks
for one of the four kinds, and finds the fault of that part inside. -/
inductive Failure where
  | file (fault : FileFault)
  | option (fault : OptionFault)
  | tls (fault : Tls.Fault)
  | settings (fault : SettingsFault)
  deriving DecidableEq

/-- The wording of a failure. -/
def Failure.message : Failure → String
  | .file fault => String.join ["IO error: ", fault.message]
  | .option fault => String.join ["Channel configuration error: ", fault.message]
  | .tls fault => String.join ["TLS error: ", fault.message]
  | .settings fault => String.join ["Configuration error: ", fault.message]

end TunnelOptions
