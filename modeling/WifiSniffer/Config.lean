/-!
# Build configuration

The part of `sdkconfig` the sniffer is compiled against.  The ranges are the ones
`Kconfig.projbuild` enforces, so a value of this type is a buildable choice.
-/

namespace WifiSniffer

/-- The options of the `Sniffer Configuration` menu that the code uses, and
whether the firmware is built for the LILYGO S3 board. -/
structure SdkConfig where
  /-- `CONFIG_SNIFFER_SNAP_LEN` -/
  snapLen : Nat
  snapLen_ge : 200 ≤ snapLen
  snapLen_le : snapLen ≤ 2500
  /-- `CONFIG_SNIFFER_QUEUE_SIZE` -/
  queueSize : Nat
  queueSize_ge : 30 ≤ queueSize
  queueSize_le : queueSize ≤ 200
  /-- whether `CONFIG_LILIGO_S3` is defined -/
  liligoS3 : Bool

/-- The smallest snap length and queue, without the LILYGO board. -/
def SdkConfig.smallest : SdkConfig where
  snapLen := 200
  snapLen_ge := Nat.le_refl 200
  snapLen_le := by decide
  queueSize := 30
  queueSize_ge := Nat.le_refl 30
  queueSize_le := by decide
  liligoS3 := false

instance : Inhabited SdkConfig :=
  ⟨SdkConfig.smallest⟩

end WifiSniffer
