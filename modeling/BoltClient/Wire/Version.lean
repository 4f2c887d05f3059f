import BoltClient.Bytes

/-!
Protocol versions. In a handshake a version is four bytes: two that are not
used, the minor and the major number.
-/

namespace BoltClient

structure Version where
  major : UInt8
  minor : UInt8
  deriving DecidableEq, Repr

namespace Version

def zero : Version := ⟨0, 0⟩

/-- The version that is offered when none is asked for. -/
def current : Version := ⟨5, 4⟩

def isZero (version : Version) : Bool := version = zero

/-- The version as one number, the major version in the low byte. -/
def toNat (version : Version) : Nat := version.minor.toNat * 256 + version.major.toNat

/-- The version in a number; all but the two low bytes are ignored. -/
def ofNat (number : Nat) : Version := ⟨UInt8.ofNat number, UInt8.ofNat (number / 256)⟩

def text (version : Version) : String := s!"{version.major.toNat}.{version.minor.toNat}"

/-- Versions are in the order of their major numbers, then of their minor numbers. -/
def order (first second : Version) : Ordering :=
  (compare first.major second.major).then (compare first.minor second.minor)

theorem ofNat_toNat (version : Version) : ofNat version.toNat = version := by
  have major := version.major.toNat_lt
  have minor := version.minor.toNat_lt
  simp only [ofNat, toNat]
  congr 1
  · apply UInt8.toNat_inj.mp
    rw [UInt8.toNat_ofNat']
    omega
  · apply UInt8.toNat_inj.mp
    rw [UInt8.toNat_ofNat']
    omega

end Version
end BoltClient
