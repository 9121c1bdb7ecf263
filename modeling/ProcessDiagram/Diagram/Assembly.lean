import ProcessDiagram.Diagram.Flow
import ProcessDiagram.Diagram.Legend
import ProcessDiagram.Graph.Dot
import ProcessDiagram.Graph.Json

/-! Whole diagrams: the main flow in a cluster, the spacer after it, and the legend. -/
namespace ProcessDiagram

structure Diagram where
  graph : Graph
  report : Report
deriving Inhabited

namespace Diagram

def mainCluster : String := "cluster_main"

def frame (root : Subgraph) : Graph where
  comment := "BPMN Diagram"
  attrs := [("rankdir", "TB"), ("nodesep", "0.8"), ("ranksep", "1.0"), ("splines", "ortho")]
  nodeDefaults := [("fontname", "Helvetica")]
  edgeDefaults := [("fontname", "Helvetica")]
  root

def canvas : Subgraph := (Subgraph.named mainCluster).setAttr "style" "invis"

/-- Draws a process. An event at the end of the flow is followed by the spacer. -/
def ofProcess (process : ProcessDescription) : Diagram :=
  let start : Report := { flowMissing := !process.hasFlow }
  let (slots, d, report) := Drawing.flow process.entries { Drawing.blank with canvas } start
  let pull := (trailingEvent process.entries slots).toList.map fun exit => Edge.invisible exit spacerId
  { graph := frame (.mk none [] [.ofKind spacerId "" .spacer] pull [] [d.canvas, legend])
    report := { report with
      tasks := d.ledger.count
      ids := d.registry.count
      collisions := d.registry.collisions } }

def ofText (text : String) : Except DescriptionError Diagram :=
  ofProcess <$> ProcessDescription.ofText text

def toDot (d : Diagram) : String := d.graph.toDot

def toJson (d : Diagram) : Json := .object [("graph", d.graph.toJson), ("report", d.report.toJson)]

end Diagram

end ProcessDiagram
