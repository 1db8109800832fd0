import Sidecar.Storage.Error
import Sidecar.Number.Text
import Sidecar.Text.Basic

/-!
# Gauges

A gauge is a named number that is shown to whoever asks for the metrics.  `Gauges` keeps them:
the names that are known, each with the place of its value, and the registry from which they are
shown.

* `Gauges.store` sets the gauge of a configuration to the number that the data says, creating the
  gauge when its name is new;
* `Gauges.value?` looks a gauge up, `Gauges.render` writes them all, sorted by name.
-/

namespace Sidecar

/-- Named numbers. -/
structure Gauges where
  /-- The known names, each with the index of its value. -/
  known : List (String × Nat)
  /-- The names that are shown, each with the index of its value. -/
  registry : List (String × Nat)
  /-- The values. -/
  values : List Binary64
  deriving DecidableEq, Repr, Inhabited

namespace Gauges

/-- No gauges. -/
def empty : Gauges := { known := [], registry := [], values := [] }

/-- A character that a metric name may begin with. -/
def isNameStart (c : Char) : Bool := c.isAlpha || c == '_' || c == ':'

/-- Whether a text can name a metric. -/
def isMetricName (s : String) : Bool :=
  match s.toList with
  | [] => false
  | c :: cs => isNameStart c && cs.all fun c => isNameStart c || c.isDigit

/-- The number of gauges. -/
def count (g : Gauges) : Nat := g.known.length

/-- The value of a gauge. -/
def value? (g : Gauges) (name : String) : Option Binary64 := do
  let i ← g.known.lookup name
  g.values[i]?

/-- The index of the gauge of a name, which is created when it is new. -/
def obtain? (g : Gauges) (name : String) : Except StorageError (Gauges × Nat) :=
  match g.known.lookup name with
  | some i => .ok (g, i)
  | none =>
    if !isMetricName name then .error (.metric ("Error: '" ++ name ++ "' is not a valid metric name"))
    else if (g.registry.lookup name).isSome then
      .error (.metric "Duplicate metrics collector registration attempted")
    else
      let i := g.values.length
      .ok ({ known := (name, i) :: g.known, registry := g.registry ++ [(name, i)],
             values := g.values ++ [.zero false] }, i)

/-- Set the gauge of a name. -/
def set (g : Gauges) (name : String) (x : Binary64) : Except StorageError Gauges := do
  let (g, i) ← g.obtain? name
  return { g with values := g.values.set i x }

/-- The number that a piece of data says. -/
def number? (data : String) : Except StorageError Binary64 :=
  match readFloat (trimBlank data) with
  | some x => .ok x
  | none => .error (.notNumeric data)

/-- Store data as a configuration says.  There may be no gauges yet, which is an error. -/
def store (gauges : Option Gauges) (data : String) (config : StorageConfig) :
    Except StorageError Gauges :=
  match config with
  | .inKube _ => .error (.invalidConfig (.wrongKind .gauge config.kind))
  | .gauge c =>
    match gauges with
    | none => .error (.notInitialized .gauge)
    | some g => do
      config.validate
      g.set c.metricName (← number? data)

/-- The shown gauges, sorted by name. -/
def shown (g : Gauges) : List (String × Nat) := Value.members g.registry

/-- A gauge with its description. -/
def renderGauge (name : String) (x : Binary64) : String :=
  "# HELP " ++ name ++ " Automatically generated metric from collected data\n" ++
  "# TYPE " ++ name ++ " gauge\n" ++
  name ++ " " ++ x.render .gauge ++ "\n"

/-- All gauges, sorted by name. -/
def render (g : Gauges) : String :=
  String.join (g.shown.map fun (name, i) => renderGauge name (g.values[i]?.getD (.zero false)))

end Gauges

end Sidecar
