import ProcessDiagram.Graph.Basic
import ProcessDiagram.Json.Printer

/-! The JSON document of a graph. -/
namespace ProcessDiagram

def Attributes.toJson (attrs : Attributes) : Json :=
  .object (attrs.map fun (k, v) => (k, .string v))

private def measureJson (x : Decimal.Single) : Json := .number (.single x)

def NodeStyle.toJson (s : NodeStyle) : Json :=
  .object [
    ("shape", .string s.shape.text),
    ("style", Json.ofOption .string s.style),
    ("fill_color", Json.ofOption .string s.fillColor),
    ("pen_width", Json.ofOption measureJson s.penWidth),
    ("width", Json.ofOption measureJson s.width),
    ("height", Json.ofOption measureJson s.height),
    ("margin", Json.ofOption .string s.margin),
    ("font_size", Json.ofOption Json.ofNat s.fontSize),
    ("font_color", Json.ofOption .string s.fontColor)]

def Node.toJson (n : Node) : Json :=
  .object [
    ("id", .string n.id),
    ("label", .string n.label),
    ("kind", .string n.kind.name),
    ("style", n.style.toJson)]

def Edge.toJson (e : Edge) : Json :=
  .object [
    ("from", .string e.source),
    ("to", .string e.target),
    ("style", .string e.style.name),
    ("constraint", .bool e.constraint),
    ("arrowhead", .bool e.arrowhead),
    ("pen_width", Json.ofOption measureJson e.penWidth)]

namespace Subgraph

mutual

def toJson : Subgraph → Json
  | .mk name attrs nodes edges members children =>
    .object [
      ("name", Json.ofOption .string name),
      ("attrs", attrs.toJson),
      ("nodes", .array (nodes.map Node.toJson)),
      ("edges", .array (edges.map Edge.toJson)),
      ("members", .array (members.map .string)),
      ("subgraphs", .array (jsonOf children))]

def jsonOf : List Subgraph → List Json
  | [] => []
  | s :: rest => s.toJson :: jsonOf rest

end

end Subgraph

def Graph.toJson (g : Graph) : Json :=
  .object [
    ("comment", .string g.comment),
    ("attrs", g.attrs.toJson),
    ("node_defaults", g.nodeDefaults.toJson),
    ("edge_defaults", g.edgeDefaults.toJson),
    ("root", g.root.toJson)]

end ProcessDiagram
