import Checkup.Project.Discovery
import Checkup.RuntimeSettings

/-!
# What a check is given

A check looks at one project, with the switches of the run, and either at all of it or at a list of
paths that may be empty.
-/

namespace Checkup

structure CheckContext where
  root : Path
  project : Project
  settings : RuntimeSettings
  paths : Option (List String)

end Checkup
