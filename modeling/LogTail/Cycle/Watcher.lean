import LogTail.Config.Validation
import LogTail.Scan

/-!
# Watchers

A configuration that was found valid, with its expressions compiled.
-/

namespace LogTail

structure Watcher where
  config : WatchConfig
  matcher : Matcher
  filter : Filter

def Watcher.ofConfig (c : WatchConfig) : Except ConfigError Watcher := do
  c.validate
  let matcher ← Matcher.ofConfig c
  let filter ← Filter.ofTexts c.includes c.excludes c.template
  return ⟨c, matcher, filter⟩

end LogTail
