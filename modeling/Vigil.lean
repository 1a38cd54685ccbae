import Vigil.Context.Delivery
import Vigil.Expr.Evaluate
import Vigil.Expression
import Vigil.Log.Collector
import Vigil.Main
import Vigil.Number.Scientific
import Vigil.Proofs.Context.Compilation
import Vigil.Proofs.Context.Journal
import Vigil.Proofs.Context.Retention
import Vigil.Proofs.Context.Transparency
import Vigil.Proofs.Expr.Callable
import Vigil.Proofs.Expr.Course
import Vigil.Proofs.Expr.Draft
import Vigil.Proofs.Expr.Excerpt
import Vigil.Proofs.Expr.Height
import Vigil.Proofs.Expr.NumericText
import Vigil.Proofs.Expr.Objection
import Vigil.Proofs.Expr.Postorder
import Vigil.Proofs.Expr.Regularity
import Vigil.Proofs.Expr.Skipping
import Vigil.Proofs.Expr.Spacing
import Vigil.Proofs.Expr.Spans
import Vigil.Proofs.Expr.Tiling
import Vigil.Proofs.Expr.Viability
import Vigil.Proofs.Hosting.Modesty
import Vigil.Proofs.Hosting.Verdicts
import Vigil.Proofs.Log.Window
import Vigil.Proofs.Sensor.Arity
import Vigil.Proofs.Sensor.Permanence
import Vigil.Proofs.Settings.Tables
import Vigil.Proofs.Settings.Validation
import Vigil.Proofs.Simulation.Disabled
import Vigil.Proofs.Value.Equality
import Vigil.Proofs.Watch.Bindings
import Vigil.Proofs.Watch.Deliveries
import Vigil.Proofs.Watch.Finality
import Vigil.Proofs.Watch.Isolation
import Vigil.Proofs.Watch.Rebinding
import Vigil.Proofs.Watch.Removal
import Vigil.Proofs.Watch.Ticking
import Vigil.Proofs.Watch.Unreported
import Vigil.Script.Session
import Vigil.Settings.Reader
import Vigil.Settings.Writer
import Vigil.Simulation.Run
import Vigil.Simulation.Scenario.Reader
import Vigil.Toml.Reader
import Vigil.Value.Json
import Vigil.Watch.EventBindings
import Vigil.Watch.Poller
