import ProcessDiagram.Decimal.Shortest

/-! How nodes and edges look. The values are fixed: a diagram has no themes. -/
namespace ProcessDiagram

open Decimal (Single)

/-- What a node stands for; it decides the style. -/
inductive NodeKind where
  | startEvent
  | endEvent
  | genericEvent
  | task
  | xorGateway
  | andGateway
  | loopMarker
  | condition
  | legendIcon
  | legendLabel
  | spacer
deriving DecidableEq, Repr

inductive Shape where
  | circle
  | doubleCircle
  | box
  | diamond
  | plaintext
  | none
deriving DecidableEq, Repr

def Shape.text : Shape → String
  | .circle => "circle"
  | .doubleCircle => "doublecircle"
  | .box => "box"
  | .diamond => "diamond"
  | .plaintext => "plaintext"
  | .none => "none"

/-- The attributes of a node; an absent one is not written. -/
structure NodeStyle where
  shape : Shape
  style : Option String := none
  fillColor : Option String := none
  penWidth : Option Single := none
  width : Option Single := none
  height : Option Single := none
  margin : Option String := none
  fontSize : Option Nat := none
  fontColor : Option String := none
deriving DecidableEq, Repr

/-! Measures in single precision. -/

def fourTenths : Single := ⟨0x3ECCCCCD⟩
def half : Single := ⟨0x3F000000⟩
def sixTenths : Single := ⟨0x3F19999A⟩
def sevenTenths : Single := ⟨0x3F333333⟩
def oneAndHalf : Single := ⟨0x3FC00000⟩
def two : Single := ⟨0x40000000⟩

namespace NodeStyle

def startEvent : NodeStyle :=
  { shape := .circle, style := some "filled", fillColor := some "#90EE90", penWidth := some two,
    width := some half, height := some half }

def endEvent : NodeStyle :=
  { shape := .doubleCircle, style := some "filled", fillColor := some "#FFB6C1", penWidth := some two,
    width := some sixTenths, height := some sixTenths }

def genericEvent : NodeStyle := { startEvent with fillColor := some "#E0E0E0" }

def task : NodeStyle :=
  { shape := .box, style := some "rounded,filled", fillColor := some "#E6F3FF", penWidth := some two,
    height := some sixTenths, margin := some "0.3,0.2" }

def xorGateway : NodeStyle :=
  { shape := .diamond, style := some "filled", fillColor := some "#FFFACD", penWidth := some two,
    width := some sevenTenths, height := some sevenTenths }

def andGateway : NodeStyle := { xorGateway with fillColor := some "#98FB98" }

def loopMarker : NodeStyle := { xorGateway with fillColor := some "#DDA0DD" }

def condition : NodeStyle :=
  { shape := .box, style := some "filled,dashed", fillColor := some "#E0E0E0", fontSize := some 9,
    fontColor := some "#555555" }

def legendLabel : NodeStyle := { shape := .plaintext, fontSize := some 12 }

def spacer : NodeStyle := { shape := .none, style := some "invis", height := some half }

end NodeStyle

namespace NodeKind

def name : NodeKind → String
  | .startEvent => "start_event"
  | .endEvent => "end_event"
  | .genericEvent => "generic_event"
  | .task => "task"
  | .xorGateway => "xor_gateway"
  | .andGateway => "and_gateway"
  | .loopMarker => "loop_marker"
  | .condition => "condition"
  | .legendIcon => "legend_icon"
  | .legendLabel => "legend_label"
  | .spacer => "spacer"

def style : NodeKind → NodeStyle
  | .startEvent => .startEvent
  | .endEvent => .endEvent
  | .genericEvent => .genericEvent
  | .task => .task
  | .xorGateway => .xorGateway
  | .andGateway => .andGateway
  | .loopMarker => .loopMarker
  | .condition => .condition
  | .legendIcon => .task
  | .legendLabel => .legendLabel
  | .spacer => .spacer

def glyph : NodeKind → String
  | .xorGateway => "X"
  | .andGateway => "+"
  | _ => ""

end NodeKind

inductive EdgeStyle where
  | solid
  | dashed
  | invisible
deriving DecidableEq, Repr

def EdgeStyle.name : EdgeStyle → String
  | .solid => "solid"
  | .dashed => "dashed"
  | .invisible => "invisible"

/-- The `style` attribute; the default stroke has none. -/
def EdgeStyle.attribute : EdgeStyle → Option String
  | .solid => none
  | .dashed => some "dashed"
  | .invisible => some "invis"

end ProcessDiagram
