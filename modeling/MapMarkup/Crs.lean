import MapMarkup.Box.Param
import MapMarkup.Text.Blank
import MapMarkup.Text.Case

/-!
# Coordinate reference systems

The reference systems that requests may name, the codes they are written with, and the order in
which their coordinates are given. Two of them are geographic and describe the same positions; they
differ in the axis order alone.
-/

namespace MapMarkup

inductive Crs where
  /-- WGS 84 in degrees, longitude first. -/
  | crs84
  /-- WGS 84 in degrees, latitude first from version 1.3 of the request protocol on. -/
  | epsg4326
  /-- Web Mercator, in metres. -/
  | epsg3857
  /-- Alaska Polar Stereographic on WGS 84, in metres. -/
  | epsg5936
  /-- Canada Atlas Lambert on NAD 83, in metres. -/
  | epsg3978
deriving Repr, DecidableEq

/-- Why a text names no reference system. -/
inductive CrsFault where
  | unsupported (text : String)
deriving Repr, DecidableEq

def CrsFault.message : CrsFault → String
  | unsupported text => "Unsupported CRS: " ++ text

namespace Crs

def all : List Crs := [crs84, epsg4326, epsg3857, epsg5936, epsg3978]

def code : Crs → String
  | crs84 => "CRS:84"
  | epsg4326 => "EPSG:4326"
  | epsg3857 => "EPSG:3857"
  | epsg5936 => "EPSG:5936"
  | epsg3978 => "EPSG:3978"

def urnStart : List Char := "URN:OGC:DEF:CRS:".toList

/-- Each `pattern` that is met from left to right is replaced; `pattern` is not empty. -/
def replaceAll (pattern replacement : List Char) : List Char → List Char
  | [] => []
  | c :: cs =>
    if pattern.isPrefixOf (c :: cs) then
      replacement ++ replaceAll pattern replacement (cs.drop (pattern.length - 1))
    else c :: replaceAll pattern replacement cs
termination_by cs => cs.length
decreasing_by all_goals simp only [List.length_cons, List.length_drop]; omega

/-- A code without the parts of a URN that carry no meaning: its start, doubled colons and the
version of the authority. -/
def bareCode (cs : List Char) : List Char :=
  if urnStart.isPrefixOf cs then
    replaceAll ":1.3:".toList [':'] (replaceAll "::".toList [':'] (cs.drop urnStart.length))
  else cs

def ofBareCode? (code : String) : Option Crs :=
  match code with
  | "CRS:84" => some crs84
  | "OGC:CRS84" => some crs84
  | "EPSG:4326" => some epsg4326
  | "EPSG:3857" => some epsg3857
  | "EPSG:900913" => some epsg3857
  | "EPSG:5936" => some epsg5936
  | "EPSG:3978" => some epsg3978
  | _ => none

def ofText (text : String) : Except CrsFault Crs :=
  match ofBareCode? (String.ofList (bareCode (Text.upperChars (Text.trimChars text.toList)))) with
  | some crs => .ok crs
  | none => .error (.unsupported text)

def isGeographic : Crs → Bool
  | crs84 | epsg4326 => true
  | _ => false

/-- The same coordinates stand for the same position in both systems. -/
def sameSpace (a b : Crs) : Bool :=
  a = b || (a.isGeographic && b.isGeographic)

/-- The axis order of a system from version 1.3 of the request protocol on. -/
def axisOrder : Crs → AxisOrder
  | epsg4326 => .latLon
  | _ => .xy

/-- The axis order of a system in a version of the request protocol. Before 1.3 it is always the
easting first. -/
def axisOrderIn (crs : Crs) (version : String) : AxisOrder :=
  if "1.3".toList.isPrefixOf version.toList then crs.axisOrder else .xy

end Crs

end MapMarkup
