import MapMarkup.Box
import MapMarkup.Decimal.Layout
import MapMarkup.Decimal.Reading
import MapMarkup.Text.Blank
import MapMarkup.Text.Fields

/-!
# Boxes as request parameters

A box in a request is four numbers between commas. The axis order says which of them is which:
`minx,miny,maxx,maxy`, or `miny,minx,maxy,maxx` where the latitude comes first. `Box.ofParam` reads
a parameter and `Box.toParam` writes one.
-/

namespace MapMarkup

/-- The order in which the two coordinates of a position are written. -/
inductive AxisOrder where
  | xy
  | latLon
deriving Repr, DecidableEq

inductive BoxFault where
  | invalidFormat (text : String)
  | invalidNumber (part : String)
  | inverted (text : String)
deriving Repr, DecidableEq

def BoxFault.message : BoxFault → String
  | invalidFormat text => "Invalid BBOX format: " ++ text ++ ". Expected 'minx,miny,maxx,maxy'"
  | invalidNumber part => "Invalid number in BBOX: " ++ part
  | inverted text => "BBOX minimum exceeds maximum: " ++ text

namespace Box

def readCoordinate (part : List Char) : Except BoxFault Float :=
  match Decimal.readFloat part with
  | some x => if x.isFinite then .ok x else .error (.invalidNumber (String.ofList part))
  | none => .error (.invalidNumber (String.ofList part))

def place (order : AxisOrder) (a b c d : Float) : Box :=
  match order with
  | .xy => ⟨a, b, c, d⟩
  | .latLon => ⟨b, a, d, c⟩

def ofParam (text : String) (order : AxisOrder) : Except BoxFault Box :=
  match (Text.splitFields ',' text.toList).map Text.trimChars with
  | [a, b, c, d] => do
    let box := place order (← readCoordinate a) (← readCoordinate b) (← readCoordinate c)
      (← readCoordinate d)
    if box.isInverted then .error (.inverted text) else .ok box
  | _ => .error (.invalidFormat text)

def listed (b : Box) : AxisOrder → List Float
  | .xy => [b.minX, b.minY, b.maxX, b.maxY]
  | .latLon => [b.minY, b.minX, b.maxY, b.maxX]

def toParam (b : Box) (order : AxisOrder) : String :=
  Text.join ',' ((b.listed order).map Decimal.text)

end Box

end MapMarkup
