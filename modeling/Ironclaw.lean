import Ironclaw.Json
import Ironclaw.Units
import Ironclaw.Statistics.Basic
import Ironclaw.Statistics.Order
import Ironclaw.Statistics.Contract
import Ironclaw.Statistics.Affine
import Ironclaw.Solvers
import Ironclaw.Compute
import Ironclaw.Gating
import Ironclaw.Tracker.Text
import Ironclaw.Tracker.Document
import Ironclaw.Tracker.Shape
import Ironclaw.Tracker.Layout
import Ironclaw.Tracker.Concurrent
import Ironclaw.Arxiv
import Ironclaw.Arxiv.Feed
import Ironclaw.Reports
import Ironclaw.Reports.Concurrent
import Ironclaw.Search
