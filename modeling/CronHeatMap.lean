import CronHeatMap.Main
import CronHeatMap.Color.Scale
import CronHeatMap.Contention
import CronHeatMap.Table
import CronHeatMap.Proofs.Text.Form
import CronHeatMap.Proofs.Text.Numeral
import CronHeatMap.Proofs.Table
import CronHeatMap.Proofs.Query
import CronHeatMap.Proofs.History
import CronHeatMap.Proofs.Color.Scale
import CronHeatMap.Proofs.Color.Classes
import CronHeatMap.Proofs.Color.Ramp
import CronHeatMap.Proofs.Contention
import CronHeatMap.Proofs.Scene.Place
import CronHeatMap.Proofs.Scene.KeyedJoin
import CronHeatMap.Proofs.HeatMap.Basic
import CronHeatMap.Proofs.HeatMap.Panel
import CronHeatMap.Proofs.HeatMap.Highlight
import CronHeatMap.Proofs.HeatMap.Drawing
import CronHeatMap.Proofs.HeatMap.Identity
import CronHeatMap.Proofs.HeatMap.Redraw
import CronHeatMap.Proofs.HeatMap.Placement
import CronHeatMap.Proofs.HeatMap.Echo
import CronHeatMap.Proofs.HeatMap.Labels
import CronHeatMap.Proofs.Contention.Ranking
import CronHeatMap.Proofs.Session.Basic
import CronHeatMap.Proofs.Session.Run
import CronHeatMap.Proofs.Session.Visits
import CronHeatMap.Proofs.Session.Tickets
import CronHeatMap.Proofs.Session.Pending
import CronHeatMap.Proofs.Session.Display
import CronHeatMap.Proofs.Session.Drawing
import CronHeatMap.Proofs.Session.Failure
import CronHeatMap.Proofs.Console.Dialogue
import CronHeatMap.Proofs.Session.Outstanding
import CronHeatMap.Proofs.Session.Decoration
import CronHeatMap.Proofs.Session.Requests
import CronHeatMap.Proofs.Console.Launch
import CronHeatMap.Proofs.Console.FirstForm
import CronHeatMap.Proofs.Query.Lines
import CronHeatMap.Proofs.Session.Expressions
import CronHeatMap.Proofs.Calendar.Reading
import CronHeatMap.Proofs.History.Tab
import CronHeatMap.Proofs.Query.DateRule
import CronHeatMap.Proofs.Axis
import CronHeatMap.Proofs.Console.Command
import CronHeatMap.Proofs.Settings
