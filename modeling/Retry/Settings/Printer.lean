import Retry.Json.Printer
import Retry.Settings.Names

/-!
# Writing settings

Settings are written as a JSON object with its members in a fixed order. An absent bound on time
is left out; every other member is written, even if it has its default.
-/

namespace Retry

/-- The settings of a backoff as a JSON object that names its kind first. -/
def BackoffSettings.toJson : BackoffSettings → Json.Value
  | .none => .object [(kindKey, .text BackoffKind.none.name)]
  | .fixed intervalMs =>
    .object
      [(kindKey, .text BackoffKind.fixed.name),
       (BackoffField.intervalMs.name, .number (.integer intervalMs.toNat))]
  | .exponential initialMs multiplier maxMs =>
    .object
      [(kindKey, .text BackoffKind.exponential.name),
       (BackoffField.initialMs.name, .number (.integer initialMs.toNat)),
       (BackoffField.multiplier.name, .number (.float multiplier)),
       (BackoffField.maxMs.name, .number (.integer maxMs.toNat))]

namespace Settings

def toJson (settings : Settings) : Json.Value :=
  let duration :=
    match settings.maxDurationMs with
    | none => []
    | some milliseconds =>
      [(SettingsField.maxDurationMs.name, Json.Value.number (.integer milliseconds.toInt))]
  .object
    ([(SettingsField.maxAttempts.name, .number (.integer settings.maxAttempts.toInt))] ++ duration
      ++ [(SettingsField.backoff.name, settings.backoff.toJson),
          (SettingsField.jitter.name, .boolean settings.jitter)])

def text (settings : Settings) : String := settings.toJson.compact

/-- The settings as a text with one member on each line. -/
def indentedText (settings : Settings) : String := settings.toJson.indented

end Settings

end Retry
