import EventTemplate.Engine.Basic
import EventTemplate.Settings.File

/-
  The default engine: the one that a program gets which asks for none. It works by the settings
  file, or by the default settings if the file cannot be used.
-/

namespace EventTemplate.Engine

/-- The default engine with its store of literal templates, and the log of loading it. -/
structure Loaded where
  engine : Engine := {}
  literals : Recent Instance := { capacity := 0 }
  records : List Record := []

/-- The default engine, where the given files can be read. -/
def loadDefault (files : Files) (path environment : Option String) : Except SizeError Loaded :=
  match Settings.load files path environment with
  | .error why => .ok { records := [.badSettings why.message] }
  | .ok settings => do
    let literals ← createLiterals settings
    return { engine := { settings }, literals }

end EventTemplate.Engine
