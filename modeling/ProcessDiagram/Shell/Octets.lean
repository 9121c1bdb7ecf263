import ProcessDiagram.Text.Utf8

/-! Text of bytes. A shell looks at no encoding, so a character of its text stands for one byte. -/
namespace ProcessDiagram.Shell

def ofBytes (bytes : List UInt8) : String := String.ofList (bytes.map fun b => Char.ofNat b.toNat)

def toBytes (text : String) : List UInt8 := text.toList.map fun c => UInt8.ofNat c.toNat

/-- Text of characters as text of bytes. -/
def ofText (text : String) : String := ofBytes (Text.Utf8.encode text)

def toText (text : String) : String := Text.Utf8.decodeLossy (toBytes text)

end ProcessDiagram.Shell
