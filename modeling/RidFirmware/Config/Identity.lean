import RidFirmware.Model

/-! Test identities. The hash of the vendor library is a parameter: it either fails or yields a
digest of 32 bytes. -/

namespace RidFirmware
open Lib

/-- One complete SHA-256 computation of the vendor library, from start to finish. -/
abbrev Sha256 := Bytes → Option (Vector UInt8 32)

def kHex : Bytes := ascii "0123456789ABCDEF"

def protocolTag (protocol : Protocol) : UInt8 := if protocol = .gb46750 then 0x00 else 0x01

/-- The four bytes of an index, most significant first. -/
def indexBe (index : UInt32) : Bytes :=
  [(index >>> 24).toUInt8, (index >>> 16).toUInt8, (index >>> 8).toUInt8, index.toUInt8]

def hexDigits (byte : UInt8) : Bytes :=
  [kHex.getD (byte >>> 4).toNat 0, kHex.getD (byte &&& 0x0f).toNat 0]

/-- The bytes hashed for an aircraft. -/
def identityInput (device : DeviceId) (groupName : Bytes) (groupIndex : UInt32)
    (protocol : Protocol) : Bytes :=
  Vector.toList device ++ groupName ++ indexBe groupIndex ++ [protocolTag protocol]

/-- An empty identity reports a failed hash. -/
def deriveTestId (sha256 : Sha256) (device : DeviceId) (groupName : Bytes) (groupIndex : UInt32)
    (protocol : Protocol) : TestIdentity :=
  match sha256 (identityInput device groupName groupIndex protocol) with
  | none => ⟨[]⟩
  | some digest => ⟨ascii "TEST" ++ (digest.toList.take 8).flatMap hexDigits⟩

theorem deriveTestId_length (sha256 : Sha256) (device : DeviceId) (groupName : Bytes)
    (groupIndex : UInt32) (protocol : Protocol)
    (derived : (deriveTestId sha256 device groupName groupIndex protocol).value ≠ []) :
    (deriveTestId sha256 device groupName groupIndex protocol).value.length = 20 := by
  unfold deriveTestId at derived ⊢
  cases hashed : sha256 (identityInput device groupName groupIndex protocol) with
  | none => simp [hashed] at derived
  | some digest =>
    have lengths : ∀ byte, (hexDigits byte).length = 2 := fun _ => rfl
    simp only [List.length_append, List.length_flatMap, lengths, List.map_const', List.sum_replicate,
      List.length_take, Vector.length_toList]
    rfl

end RidFirmware
