/-! Names in the service: the plugins that are installed, and the loggers of its parts. -/

namespace Reckoner.Service

/-- The directories of an installation that hold plugins, with the plugins in each. -/
def installed : List (String × List String) := [
  ("", ["app"]),
  ("plugins", ["precise_calculator"]),
  ("plugins/precise_calculator", ["api", "core"])]

/-- The full names of the plugins in a directory. -/
def discover (directory : String) : List String :=
  ((installed.lookup directory).getD []).map fun name => directory ++ "." ++ name

def rootLogger : String := "calq"

/-- The full name of a logger: all stand below the root. -/
def loggerName (name : String) : String :=
  if name = rootLogger || name.startsWith (rootLogger ++ ".") then name
  else rootLogger ++ "." ++ name

end Reckoner.Service
