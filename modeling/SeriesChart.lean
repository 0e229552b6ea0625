import SeriesChart.Display.Image
import SeriesChart.Display.Page
import SeriesChart.Font.Library
import SeriesChart.Proofs.Calendar.DateLabels
import SeriesChart.Proofs.Display.BaseLayer
import SeriesChart.Proofs.Display.Demands
import SeriesChart.Proofs.Display.Drawing
import SeriesChart.Proofs.Display.Freshness
import SeriesChart.Proofs.Display.LastEvent
import SeriesChart.Proofs.Display.Listening
import SeriesChart.Proofs.Display.Pointing
import SeriesChart.Proofs.Display.Requests
import SeriesChart.Proofs.Display.Updates
import SeriesChart.Proofs.Display.Withdrawal
import SeriesChart.Proofs.Options.KeyOrder
import SeriesChart.Proofs.Options.Outcomes
import SeriesChart.Proofs.Options.Replacing
import SeriesChart.Proofs.Plot.Agreement
import SeriesChart.Proofs.Plot.Exact
import SeriesChart.Proofs.Plot.Nearest
import SeriesChart.Proofs.Plot.Ticks
import SeriesChart.Proofs.Raster.Clipping
import SeriesChart.Proofs.Raster.EvenOdd
import SeriesChart.Proofs.Raster.Lines
import SeriesChart.Proofs.Raster.Marks
import SeriesChart.Proofs.Raster.Overlap
import SeriesChart.Proofs.Raster.Straight
import SeriesChart.Proofs.Raster.TextBox
import SeriesChart.Proofs.Raster.Thickness
import SeriesChart.Proofs.Records.Rows
import SeriesChart.Proofs.Scene.Calls
import SeriesChart.Raster.Coverage
import SeriesChart.Raster.Digest
