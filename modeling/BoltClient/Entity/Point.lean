import BoltClient.Entity.Form

/-!
Points in two and three dimensions, with the coordinate system they refer to.
-/

namespace BoltClient

structure Point2D where
  srid : Int64
  x : Double
  y : Double

structure Point3D where
  srid : Int64
  x : Double
  y : Double
  z : Double

open StructureForm (field)

namespace Point2D

/-- Geographic coordinates. -/
def sridGeographic : Int64 := 4326
def sridCartesian : Int64 := 7203

def cartesian (x y : Double) : Point2D := ⟨sridCartesian, x, y⟩

def form : StructureForm Point2D where
  signature := 0x58
  arity := 3
  fields point := [.integer point.srid, .float point.x, .float point.y]
  ofFields?
    | [srid, x, y] => some do
      return {
        srid := ← field 0 Decoder.int64 srid
        x := ← field 1 Decoder.double x
        y := ← field 2 Decoder.double y }
    | _ => none

end Point2D

namespace Point3D

/-- Geographic coordinates with a height. -/
def sridGeographic : Int64 := 4979
def sridCartesian : Int64 := 9157

def cartesian (x y z : Double) : Point3D := ⟨sridCartesian, x, y, z⟩

def form : StructureForm Point3D where
  signature := 0x59
  arity := 4
  fields point := [.integer point.srid, .float point.x, .float point.y, .float point.z]
  ofFields?
    | [srid, x, y, z] => some do
      return {
        srid := ← field 0 Decoder.int64 srid
        x := ← field 1 Decoder.double x
        y := ← field 2 Decoder.double y
        z := ← field 3 Decoder.double z }
    | _ => none

end Point3D
end BoltClient
