import Decisioning.Json.Record
import Decisioning.Surface
import Decisioning.Toml.Document

/-!
# Settings

What can be configured: the application, where its cache lives, and how much is
logged. Everything has a default.

Settings are written in TOML or as a JSON record. Both ignore what they do not
know, and both refuse a known setting of the wrong type. Valid settings name an
application and a cache key that is a plain file name.

## Main definitions

* `Settings`, `LogSettings`: The settings.
* `Settings.ofToml?`, `Settings.ofRecord?`: The two written forms.
* `SettingsFault`, `Settings.fault?`: Why settings are invalid, if they are.
-/

namespace Decisioning

/-- How much is logged, and in which form. -/
structure LogSettings where
  level : String
  json : Bool
deriving DecidableEq, Repr

/-- What can be configured. -/
structure Settings where
  /-- The application whose surfaces are the default ones. -/
  appId : String
  /-- The directory of the cache; without one, nothing is cached. -/
  cacheDir : Option String
  /-- The key under which propositions are cached. -/
  cacheKey : String
  logging : LogSettings
deriving DecidableEq, Repr

namespace LogSettings

/-- The logging of an application that sets nothing. -/
def standard : LogSettings := { level := "info", json := false }

/-- The logging that a JSON record sets. -/
def ofRecord? (value : Json) : Option LogSettings :=
  match value.record? ["level", "json"] with
  | some [level, json] => do
      return { level := ← orDefault standard.level Json.asString? level
               json := ← orDefault standard.json Json.asBool? json }
  | _ => none

/-- The written form of the logging. -/
def toJson (s : LogSettings) : Json :=
  .obj [("json", .bool s.json), ("level", .str s.level)]

end LogSettings

namespace Toml

/-- The string that a value is. -/
def asString? : Toml → Option String
  | .string s => some s
  | _ => none

/-- The truth value that a value is. -/
def asBool? : Toml → Option Bool
  | .boolean b => some b
  | _ => none

/-- Read an entry that has a default. -/
def orDefault {α : Type} (default : α) (read? : Toml → Option α) : Option Toml → Option α
  | none => some default
  | some value => read? value

/-- The logging with the given entries. -/
def logSettings? (level json : Option Toml) : Option LogSettings := do
  return { level := ← orDefault LogSettings.standard.level asString? level
           json := ← orDefault LogSettings.standard.json asBool? json }

/-- The logging that a value sets: a table, or an array of the level and the
    form. A date or a time is a table without any setting of the logging. -/
def asLogSettings? : Toml → Option LogSettings
  | .table _ entries => logSettings? (lookup? "level" entries) (lookup? "json" entries)
  | .array items => logSettings? items[0]? items[1]?
  | .dateTime _ => logSettings? none none
  | _ => none

end Toml

/-- Why settings are invalid. -/
inductive SettingsFault where
  | blankAppId
  /-- The cache key is empty or names a path. -/
  | badCacheKey (key : String)
deriving DecidableEq, Repr

namespace SettingsFault

/-- The text that reports a fault. -/
def message : SettingsFault → String
  | .blankAppId => "invalid configuration: app_id must not be empty"
  | .badCacheKey key =>
      "invalid configuration: cache_key '" ++ key ++ "' must be a plain file name"

end SettingsFault

namespace Settings

/-- The settings of an application that sets nothing. -/
def standard : Settings :=
  { appId := "inbound", cacheDir := none, cacheKey := "propositions", logging := .standard }

/-- An optional string, for which null stands as well. -/
def optionalString? : Json → Option (Option String)
  | .null => some none
  | value => value.asString?.map some

/-- The settings that a JSON record sets. -/
def ofRecord? (value : Json) : Option Settings :=
  match value.record? ["app_id", "cache_dir", "cache_key", "logging"] with
  | some [appId, cacheDir, cacheKey, logging] => do
      return { appId := ← orDefault standard.appId Json.asString? appId
               cacheDir := ← orDefault standard.cacheDir optionalString? cacheDir
               cacheKey := ← orDefault standard.cacheKey Json.asString? cacheKey
               logging := ← orDefault standard.logging LogSettings.ofRecord? logging }
  | _ => none

/-- The settings that a TOML text sets. -/
def ofToml? (text : String) : Option Settings := do
  let entries ← Toml.ofText? text
  return { appId := ← Toml.orDefault standard.appId Toml.asString? (lookup? "app_id" entries)
           cacheDir := ← Toml.orDefault standard.cacheDir (fun value => value.asString?.map some)
             (lookup? "cache_dir" entries)
           cacheKey := ← Toml.orDefault standard.cacheKey Toml.asString?
             (lookup? "cache_key" entries)
           logging := ← Toml.orDefault standard.logging Toml.asLogSettings?
             (lookup? "logging" entries) }

/-- Why settings are invalid; the application is looked at first. -/
def fault? (s : Settings) : Option SettingsFault :=
  if isBlankText s.appId then some .blankAppId
  else if s.cacheKey.isEmpty || s.cacheKey.toList.any (fun c => c = '/' || c = '\\') then
    some (.badCacheKey s.cacheKey)
  else none

/-- Whether settings can be used. -/
def IsValid (s : Settings) : Prop := s.fault? = none

instance (s : Settings) : Decidable s.IsValid := inferInstanceAs (Decidable (s.fault? = none))

/-- The written form of settings. -/
def toJson (s : Settings) : Json :=
  .obj [("app_id", .str s.appId), ("cache_dir", Json.ofOption (s.cacheDir.map .str)),
    ("cache_key", .str s.cacheKey), ("logging", s.logging.toJson)]

/-- The surface of the application itself. -/
def defaultSurface (s : Settings) : Surface := .forApp s.appId

end Settings

end Decisioning
