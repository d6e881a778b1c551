import AutoTrader.Domain.Basic
import AutoTrader.Domain.Decimal

/-! Completed bars, without regard to the provider. A bar that breaks one of the checks of its
constructor cannot be built. -/

namespace AutoTrader.Domain

structure CompletedOhlcvBar where
  timestamp : Instant
  open_ : Decimal
  high : Decimal
  low : Decimal
  close : Decimal
  volume : Decimal
  low_pos : 0 < low.toRat
  low_le_open : low.toRat ≤ open_.toRat
  open_le_high : open_.toRat ≤ high.toRat
  low_le_close : low.toRat ≤ close.toRat
  close_le_high : close.toRat ≤ high.toRat
  volume_nonneg : 0 ≤ volume.toRat
  deriving DecidableEq

end AutoTrader.Domain
