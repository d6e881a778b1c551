import Mathlib.Logic.Basic

/-! The markets, setup families and grades of the strategy. -/

namespace AutoTrader.Trader

inductive V6Market
  | krxCash
  | usCash
  | binanceUsdm
  deriving DecidableEq

def V6Market.value : V6Market → String
  | .krxCash => "KRX_CASH"
  | .usCash => "US_CASH"
  | .binanceUsdm => "BINANCE_USDM"

inductive StrategyFamily
  | metodo
  | hlit
  deriving DecidableEq

def StrategyFamily.value : StrategyFamily → String
  | .metodo => "METODO"
  | .hlit => "HLIT"

inductive SetupGrade
  | reject
  | normal
  | aCandidate
  | a
  deriving DecidableEq

def SetupGrade.value : SetupGrade → String
  | .reject => "REJECT"
  | .normal => "NORMAL"
  | .aCandidate => "A_CANDIDATE"
  | .a => "A"

end AutoTrader.Trader
