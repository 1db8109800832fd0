import Sidecar.Host.Ask
import Sidecar.Probe.Extract

/-!
# Error reports

A `Report` is an error for machines: which kind of error it is, its words, the plugin that it is
about, and the errors that caused it.  Every type of errors has a function `report`.
-/

namespace Sidecar

/-- An error for machines. -/
structure Report where
  kind : String
  message : String
  /-- The plugin that it is about; there is no such field in errors that are never about one. -/
  plugin : Option (Option String)
  /-- The cause, or a list of causes. -/
  source : Option Value

namespace Report

/-- An error without a cause. -/
def plain (kind message : String) : Report := { kind, message, plugin := none, source := none }

/-- A report as a value. -/
def toValue (r : Report) : Value :=
  Value.ofPairs (
    [("error", .text r.kind), ("message", .text r.message)] ++
    r.plugin.toList.map (fun p => ("plugin", Value.ofText? p)) ++
    r.source.toList.map (fun v => ("source", v)))

end Report

/-- The report of an error of a configuration. -/
def Config.Error.report (e : Config.Error) : Report :=
  .plain
    (match e with
    | .unreadable => "Io"
    | .malformed _ => "Parse"
    | .unsupportedFormat _ => "UnsupportedFormat"
    | .missingVariable _ => "MissingEnvVar"
    | .invalid _ => "Invalid")
    e.message

/-- The report of an error of binding. -/
def BindError.report (e : BindError) : Report :=
  .plain
    (match e with
    | .notMapping _ => "InvalidSource"
    | .notRecord => "InvalidTarget"
    | .malformed => "Decode")
    e.message

/-- The report of an error of a template. -/
def TemplateError.report (e : TemplateError) : Report :=
  .plain
    (match e with
    | .unknownScope _ => "UnknownScope"
    | .variableNotFound .. => "VariableNotFound")
    e.message

/-- The kind of an error of storing. -/
def StorageError.reportKind : StorageError → String
  | .unknownKind _ => "UnknownStorageType"
  | .setupFailed .. => "StorageInitFailed"
  | .notInitialized _ => "NotInitialized"
  | .invalidConfig _ => "InvalidConfig"
  | .template _ => "Template"
  | .notNumeric _ => "NonNumericData"
  | .noCurrentPod _ => "CurrentPod"
  | .conflict _ => "Conflict"
  | .cluster _ | .noConnection _ => "Kube"
  | .metric _ => "Metric"
  | .malformedPatch _ => "Serialization"
  | .retriesExhausted .. => "RetriesExhausted"

/-- The report of an error of storing. -/
def StorageError.report : StorageError → Report
  | .template why =>
    { Report.plain "Template" (StorageError.template why).message with
      source := some why.report.toValue }
  | .retriesExhausted n last =>
    { Report.plain "RetriesExhausted" (StorageError.retriesExhausted n last).message with
      source := some (StorageError.report last).toValue }
  | e => .plain e.reportKind e.message

/-- The report of an error of a plugin. -/
def PluginError.report (e : PluginError) : Report :=
  match e with
  | .bind why => { Report.plain "Bind" e.message with source := some why.report.toValue }
  | .init _ => .plain "InitError" e.message
  | .config _ => .plain "ConfigError" e.message
  | .runtime _ => .plain "RuntimeError" e.message
  | .invalidState _ => .plain "InvalidState" e.message
  | .storage why => { Report.plain "Storage" e.message with source := some why.report.toValue }

/-- The report of an error of a probe. -/
def ProbeError.report (e : ProbeError) : Report :=
  match e with
  | .invalidRequest => .plain "InvalidRequest" e.message
  | .request => .plain "Request" e.message
  | .timeout _ => .plain "Timeout" e.message
  | .brokenOff => .plain "Body" e.message
  | .unexpectedStatus .. => .plain "UnexpectedStatus" e.message
  | .extract _ => .plain "Extract" e.message
  | .store why => { Report.plain "Store" e.message with source := some why.report.toValue }

/-- The report of a plugin that could not be stopped. -/
def HostError.stopReport (plugin : String) (why : PluginError) : Report :=
  { kind := "PluginStop", message := HostError.stopMessage plugin why, plugin := some (some plugin)
    source := some why.report.toValue }

/-- The report of an error of the host. -/
def HostError.report (e : HostError) : Report :=
  let of (kind : String) (source : Option Value) : Report :=
    { kind, message := e.message, plugin := some e.plugin?, source }
  match e with
  | .emptyName => of "EmptyName" none
  | .configBind _ why => of "ConfigBind" (some why.report.toValue)
  | .pluginInit _ why => of "PluginInit" (some why.report.toValue)
  | .pluginNotFound _ => of "PluginNotFound" none
  | .statusUnavailable _ why => of "StatusUnavailable" (some why.report.toValue)
  | .pluginStop _ why => of "PluginStop" (some why.report.toValue)
  | .stopAll failures =>
    of "StopAll" (some (.list (failures.map fun (plugin, why) =>
      (stopReport plugin why).toValue)))
  | .pluginFailed _ why => of "PluginFailed" (some why.report.toValue)
  | .server => of "Server" none
  | .config why => of "Config" (some why.report.toValue)

end Sidecar
