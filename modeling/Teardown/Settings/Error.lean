import Teardown.Validation

/-!
# Settings that cannot be loaded

The worker does not start with settings that are missing or invalid. The tools that only need
the address of the database refuse a blank one.
-/

namespace Teardown.Settings

/-- Why settings are not loaded. -/
inductive Error where
  | invalid (report : Report)
  | blankDatabaseUrl
deriving DecidableEq, Repr

namespace Error

/-- The kind of the failure, as answers name it. -/
def kind : String := "SettingsLoadError"

/-- The text of a failure. -/
def message : Error → String
  | .invalid report =>
    "Startup configuration validation failed. Update .env or environment variables. Details: " ++
      report.text
  | .blankDatabaseUrl =>
    "Database URL configuration validation failed. DATABASE_URL must not be blank."

end Error

end Teardown.Settings
