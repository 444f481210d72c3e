import EventTemplate.Text.Quoted

/-
  What is written to the program's own log while templates are parsed and settings are loaded.
-/

namespace EventTemplate

/-- A record of the program's own log. -/
inductive Record where
  /-- A template was parsed and is now in the cache. -/
  | cached (raw : String)
  /-- A raw template was rejected, which is not remembered. -/
  | refused (raw : String)
  /-- A template had to leave the cache. -/
  | evicted (raw : String)
  /-- A rejected raw template is taken as literal text from now on. -/
  | literal (raw : String) (why : String)
  /-- Settings could not be used. -/
  | badSettings (why : String)
  deriving DecidableEq, Repr

/-- A record with its level. -/
def Record.line : Record → String
  | cached raw => "DEBUG Parsed and cached template " ++ Text.quoted raw
  | refused raw => "DEBUG Not caching invalid template " ++ Text.quoted raw
  | evicted raw => "DEBUG Evicted template " ++ Text.quoted raw
  | literal raw why =>
    "WARNING Invalid template " ++ Text.quoted raw ++ ", rendering it as literal text:\n" ++ why
  | badSettings why =>
    "ERROR Invalid message template settings, using the defaults instead: " ++ why

end EventTemplate
