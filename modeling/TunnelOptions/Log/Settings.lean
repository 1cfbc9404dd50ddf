/-!
# Log settings

What a log is asked to be, as it stands in a settings file: texts, of which nothing has been
checked. Whether the level is one, or a filter that can be read, and whether there is a format of
the name, is found when a log is installed; that is also when the file is opened. So settings with a
bad level can be read and saved like any others.

* `LogSettings`: what a log is asked to be, with the values that stand for absent ones.
-/

set_option autoImplicit false

namespace TunnelOptions

/-- What a log is asked to be: three texts, none of which has been looked at. What stands for those
that are absent is a log at the middle level, for a reader, on the terminal. -/
structure LogSettings where
  /-- A level, or a filter. -/
  level : String := "info"
  /-- The name of a format. -/
  format : String := "pretty"
  /-- The file to write to; without one the log goes to the terminal. -/
  file : Option String := none
  deriving DecidableEq, Repr

end TunnelOptions
